import Folio.Math.Extraction
import Folio.Proofs.Text.Rewriting

/-!
# Tokens of math

A token is a stem, a number and a closing letter. The stem is the first of a row of
longer and longer stems that the source does not hold, and the row does come to such
a stem. No token starts inside another one, whatever follows: `clear_token_tail` and
`clear_token`.
-/

namespace Folio
namespace Math

open Text

/-!
## The stem
-/

/-- The stem that was lengthened a number of times. -/
def stemOf (n : Nat) : List Char :=
  tokenStem ++ List.replicate n 'Q'

theorem stemOf_succ (n : Nat) : stemOf (n + 1) = stemOf n ++ ['Q'] := by
  rw [stemOf, stemOf, List.replicate_succ', List.append_assoc]

theorem length_stemOf (n : Nat) : (stemOf n).length = 7 + n := by
  rw [stemOf, List.length_append, List.length_replicate]
  rfl

theorem length_le_of_occurs {part s : List Char} (h : occurs part s = true) :
    part.length ≤ s.length := by
  rcases occurs_iff.1 h with ⟨before, after, rfl⟩
  simp only [List.length_append]
  omega

/-- Lengthening stops at the first stem that the source does not hold, unless the fuel
is spent before. -/
theorem growStem_stemOf (source : List Char) (n fuel : Nat) :
    exists m, growStem source (stemOf n) fuel = stemOf m ∧
      (forall k, n ≤ k -> k < m -> occurs (stemOf k) source = true) ∧
      (m = n + fuel ∨ occurs (stemOf m) source = false) := by
  induction fuel generalizing n with
  | zero =>
      refine ⟨n, rfl, ?_, Or.inl rfl⟩
      intro k hk hkn
      omega
  | succ fuel ih =>
      cases hocc : occurs (stemOf n) source with
      | false =>
          refine ⟨n, by simp only [growStem, hocc]; rfl, ?_, Or.inr hocc⟩
          intro k hk hkn
          omega
      | true =>
          rcases ih (n + 1) with ⟨m, hm, hall, hstop⟩
          refine ⟨m, ?_, ?_, ?_⟩
          · rw [growStem, hocc, if_pos rfl, ← stemOf_succ, hm]
          · intro k hk hkm
            rcases Nat.eq_or_lt_of_le hk with rfl | hlt
            · exact hocc
            · exact hall k hlt hkm
          · rcases hstop with rfl | hfree
            · exact Or.inl (by omega)
            · exact Or.inr hfree

/-- The search for a stem ends, with the first stem in the row that the source does not
hold. -/
theorem exists_freshStem_eq (source : List Char) :
    exists n, freshStem source = stemOf n ∧ occurs (stemOf n) source = false ∧
      forall k, k < n -> occurs (stemOf k) source = true := by
  rcases growStem_stemOf source 0 source.length with ⟨n, hn, hall, hstop⟩
  refine ⟨n, ?_, ?_, fun k hk => hall k (Nat.zero_le k) hk⟩
  · rw [← hn]
    rfl
  · rcases hstop with rfl | hfree
    · rw [Bool.eq_false_iff]
      intro hocc
      have hlength := length_le_of_occurs hocc
      rw [length_stemOf] at hlength
      omega
    · exact hfree

/-!
## Numbers in tokens
-/

theorem isDigit_of_mem_digitsOf {c : Char} {n : Nat} (h : c ∈ Number.digitsOf n) :
    c.isDigit = true :=
  Nat.isDigit_of_mem_toDigits (by decide) (by decide) h

theorem digitsOf_injective {i j : Nat} (h : Number.digitsOf i = Number.digitsOf j) : i = j := by
  have := congrArg (fun ds => Nat.ofDigitChars 10 ds 0) h
  simpa only [Number.digitsOf, Nat.ofDigitChars_ten_toDigits] using this

/-- Two runs that a character closes, which neither holds, are equal if they start alike. -/
theorem eq_of_meets_closed {c : Char} {a b : List Char} (ha : c ∉ a) (hb : c ∉ b)
    (h : Meets (a ++ [c]) (b ++ [c])) : a = b := by
  induction a generalizing b with
  | nil =>
      cases b with
      | nil => rfl
      | cons d b =>
          have := (meets_cons_cons.1 h).1
          rw [List.mem_cons, not_or] at hb
          exact absurd this hb.1
  | cons d a ih =>
      cases b with
      | nil =>
          have := (meets_cons_cons.1 h).1
          rw [List.mem_cons, not_or] at ha
          exact absurd this.symm ha.1
      | cons e b =>
          rcases meets_cons_cons.1 h with ⟨rfl, hrest⟩
          rw [List.mem_cons, not_or] at ha hb
          rw [ih ha.2 hb.2 hrest]

theorem meets_append_left_iff {p a b : List Char} : Meets (p ++ a) (p ++ b) ↔ Meets a b := by
  rw [Meets, Meets, List.prefix_append_right_inj, List.prefix_append_right_inj]

/-!
## Tokens
-/

theorem tokenOf_ne_nil (stem : List Char) (i : Nat) : tokenOf stem i ≠ [] := by
  simp [tokenOf]

/-- Tokens with different numbers do not even start alike. -/
theorem not_meets_tokenOf {stem : List Char} {i j : Nat} (h : i ≠ j) :
    ¬ Meets (tokenOf stem i) (tokenOf stem j) := by
  have hX : forall n, 'X' ∉ Number.digitsOf n := by
    intro n hmem
    exact absurd (isDigit_of_mem_digitsOf hmem) (by decide)
  intro hm
  rw [tokenOf, tokenOf, List.append_assoc, List.append_assoc, meets_append_left_iff] at hm
  exact h (digitsOf_injective (eq_of_meets_closed (hX i) (hX j) hm))

theorem tokenOf_injective {stem : List Char} {i j : Nat} (h : tokenOf stem i = tokenOf stem j) :
    i = j := by
  by_cases hij : i = j
  · exact hij
  · have hmeets : ¬ Meets (tokenOf stem i) (tokenOf stem j) := not_meets_tokenOf hij
    rw [h] at hmeets
    exact absurd (Or.inl (List.prefix_refl _)) hmeets

/-- Whether a character may stand in a token: a capital letter from A to Z or a digit. -/
def isTokenChar (c : Char) : Bool :=
  c.isUpper || c.isDigit

theorem notMem_tokenOf {c : Char} (h : isTokenChar c = false) (n i : Nat) :
    c ∉ tokenOf (stemOf n) i := by
  intro hmem
  have hstem : tokenStem.all isTokenChar = true := by decide
  simp only [tokenOf, stemOf, List.mem_append, List.mem_singleton] at hmem
  rcases hmem with ((hmem | hmem) | hmem) | hmem
  · rw [List.all_eq_true.1 hstem c hmem] at h
    cases h
  · rw [List.eq_of_mem_replicate hmem] at h
    cases h
  · rw [isTokenChar, isDigit_of_mem_digitsOf hmem, Bool.or_true] at h
    cases h
  · rw [hmem] at h
    cases h

/-- A token starts with the first letters of the stem, which no other letter of a token
goes on with. -/
theorem clear_token_tail (n m i j : Nat) :
    Clear (tokenOf (stemOf n) i) (tokenOf (stemOf m) j).tail := by
  have hM : 'M' ∉ List.replicate m 'Q' ++ Number.digitsOf j ++ ['X'] := by
    simp only [List.mem_append, List.mem_singleton, not_or]
    refine ⟨⟨?_, ?_⟩, by decide⟩
    · intro h
      exact absurd (List.eq_of_mem_replicate h) (by decide)
    · intro h
      exact absurd (isDigit_of_mem_digitsOf h) (by decide)
  have hsplit : (tokenOf (stemOf m) j).tail =
      ['D', 'C'] ++ ('M' :: 'A' :: (['T', 'H'] ++
        (List.replicate m 'Q' ++ Number.digitsOf j ++ ['X']))) := by
    simp only [tokenOf, stemOf, List.append_assoc]
    rfl
  have hstart : exists rest, tokenOf (stemOf n) i = 'M' :: 'D' :: rest :=
    ⟨_, by rfl⟩
  rcases hstart with ⟨rest, hrest⟩
  rw [hsplit, hrest]
  refine (clear_of_notMem (by decide)).append ⟨?_, ?_, ?_⟩
  · intro h
    exact absurd (meets_cons_cons.1 (meets_cons_cons.1 h).2).1 (by decide)
  · intro h
    exact absurd (meets_cons_cons.1 h).1 (by decide)
  · exact (clear_of_notMem (by decide)).append (clear_of_notMem hM)

theorem clear_token {n i j : Nat} (h : i ≠ j) :
    Clear (tokenOf (stemOf n) i) (tokenOf (stemOf n) j) := by
  have htail := clear_token_tail n n i j
  cases htoken : tokenOf (stemOf n) j with
  | nil => exact absurd htoken (tokenOf_ne_nil _ j)
  | cons c rest =>
      rw [htoken] at htail
      refine ⟨?_, htail⟩
      intro hm
      rw [← htoken] at hm
      exact not_meets_tokenOf h hm.symm

theorem not_occurs_tokenOf {stem s : List Char} (h : occurs stem s = false) (i : Nat) :
    occurs (tokenOf stem i) s = false := by
  rw [Bool.eq_false_iff] at h ⊢
  intro hocc
  rcases occurs_iff.1 hocc with ⟨before, after, hs⟩
  refine h (occurs_iff.2 ⟨before, Number.digitsOf i ++ ['X'] ++ after, ?_⟩)
  rw [hs, tokenOf]
  simp only [List.append_assoc]

/-- A text that the first letter of the tokens does not stand in may be passed over. -/
theorem occurs_tokenOf_append {n i : Nat} {p : List Char} (hp : 'M' ∉ p) (s : List Char) :
    occurs (tokenOf (stemOf n) i) (p ++ s) = occurs (tokenOf (stemOf n) i) s :=
  (clear_of_notMem (w := (tokenOf (stemOf n) i).tail) hp).occurs_append s

theorem not_occurs_tokenOf_of_notMem {s : List Char} (hs : 'M' ∉ s) (n i : Nat) :
    occurs (tokenOf (stemOf n) i) s = false := by
  have := occurs_tokenOf_append (n := n) (i := i) hs []
  rw [List.append_nil] at this
  rw [this]
  rfl

end Math
end Folio
