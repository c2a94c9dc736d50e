import Folio.Proofs.Math.Token
import Folio.Proofs.Text.Lowered

/-!
# Tokens in any letter case

A text of the letters of a token starts with the two letters that no other place of a token
starts with, so it is found neither inside another such text (`clear_of_sameLetters`) nor in
what does not hold these two letters.
-/

namespace Folio
namespace Math

open Text

theorem lowered_digitsOf (i : Nat) : lowered (Number.digitsOf i) = Number.digitsOf i := by
  refine (List.map_congr_left fun c hc => ?_).trans (List.map_id _)
  exact toLower_eq_self (isUpper_of_isDigit (isDigit_of_mem_digitsOf hc))

theorem lowered_tokenOf (n i : Nat) :
    lowered (tokenOf (stemOf n) i) =
      "mdcmath".toList ++ (List.replicate n 'q' ++ (Number.digitsOf i ++ ['x'])) := by
  rw [tokenOf, stemOf, lowered_append, lowered_append, lowered_append, lowered_digitsOf]
  simp only [lowered, List.map_replicate, List.append_assoc]
  rfl

theorem sameLetters_lowered_tokenOf (n i : Nat) :
    SameLetters (lowered (tokenOf (stemOf n) i)) (tokenOf (stemOf n) i) := by
  rw [SameLetters, lowered_tokenOf, lowered_append, lowered_append, lowered_append,
    lowered_digitsOf]
  simp only [lowered, List.map_replicate]
  rfl

theorem isAlphanum_of_mem_lowered_tokenOf {c : Char} {n i : Nat}
    (h : c ∈ lowered (tokenOf (stemOf n) i)) : c.isAlphanum = true := by
  rw [lowered_tokenOf] at h
  have hstem : "mdcmath".toList.all Char.isAlphanum = true := by decide
  rcases List.mem_append.1 h with h | h
  · exact List.all_eq_true.1 hstem c h
  rcases List.mem_append.1 h with h | h
  · rw [List.eq_of_mem_replicate h]
    rfl
  rcases List.mem_append.1 h with h | h
  · rw [Char.isAlphanum, isDigit_of_mem_digitsOf h, Bool.or_true]
  · rw [List.mem_singleton.1 h]
    rfl

variable {v w : List Char} {n i j : Nat}

theorem notMem_of_sameLetters (h : SameLetters w (tokenOf (stemOf n) i)) {c : Char}
    (hc : c.isAlphanum = false) : c ∉ w := by
  intro hmem
  have hlowered := mem_lowered (isUpper_of_isAlphanum hc) hmem
  rw [h] at hlowered
  exact absurd (isAlphanum_of_mem_lowered_tokenOf hlowered) (Bool.eq_false_iff.1 hc)

/-- A text of the letters of a token starts with the first of them, small or not. -/
theorem exists_cons_of_sameLetters (h : SameLetters w (tokenOf (stemOf n) i)) :
    exists c rest, w = c :: rest ∧ (c = 'm' ∨ c = 'M') ∧
      lowered rest = (lowered (tokenOf (stemOf n) i)).tail := by
  unfold SameLetters at h
  cases w with
  | nil =>
      rw [lowered_tokenOf] at h
      cases h
  | cons c rest =>
      refine ⟨c, rest, rfl, eq_or_eq_of_toLower_eq ?_, ?_⟩
      · rw [lowered_tokenOf] at h
        exact (List.cons.inj h).1
      · rw [← h]
        rfl

theorem ne_nil_of_sameLetters (h : SameLetters w (tokenOf (stemOf n) i)) : w ≠ [] := by
  rcases exists_cons_of_sameLetters h with ⟨c, rest, rfl, -⟩
  exact List.cons_ne_nil c rest

theorem clear_of_notMem_letters (h : SameLetters w (tokenOf (stemOf n) i)) {s : List Char}
    (hsmall : 'm' ∉ s) (hlarge : 'M' ∉ s) : Clear w s := by
  rcases exists_cons_of_sameLetters h with ⟨c, rest, rfl, hc | hc, -⟩
  · exact clear_of_notMem (hc ▸ hsmall)
  · exact clear_of_notMem (hc ▸ hlarge)

/-- What does not hold the first two letters of the tokens next to each other holds none in any
case, and starts none at its end. -/
theorem clear_of_clear_start (h : SameLetters w (tokenOf (stemOf n) i)) {s : List Char}
    (hs : Clear ['m', 'd'] (lowered s)) : Clear w s := by
  apply clear_of_clear_lowered _ hs
  rw [h, lowered_tokenOf]
  exact ⟨_, rfl⟩

/-- The two letters stand nowhere in a token but at its start. -/
theorem clear_lowered_tail (n i : Nat) :
    Clear ['m', 'd'] (lowered (tokenOf (stemOf n) i)).tail := by
  have hm : 'm' ∉ List.replicate n 'q' ++ (Number.digitsOf i ++ ['x']) := by
    simp only [List.mem_append, not_or]
    refine ⟨?_, ?_, by decide⟩
    · intro hmem
      exact absurd (List.eq_of_mem_replicate hmem) (by decide)
    · intro hmem
      exact absurd (isDigit_of_mem_digitsOf hmem) (by decide)
  rw [lowered_tokenOf]
  show Clear _ ("dcmath".toList ++ _)
  exact Clear.append (by decide) (clear_of_notMem hm)

/-- Two tokens of one stem that start alike once their case is forgotten are the same. -/
theorem eq_of_meets_lowered
    (h : Meets (lowered (tokenOf (stemOf n) i)) (lowered (tokenOf (stemOf n) j))) : i = j := by
  have hx : forall k, 'x' ∉ Number.digitsOf k := by
    intro k hmem
    exact absurd (isDigit_of_mem_digitsOf hmem) (by decide)
  rw [lowered_tokenOf, lowered_tokenOf, meets_append_left_iff, meets_append_left_iff] at h
  exact digitsOf_injective (eq_of_meets_closed (hx i) (hx j) h)

/-- Two different texts of the letters of tokens do not reach into each other. -/
theorem clear_of_sameLetters (hv : SameLetters v (tokenOf (stemOf n) i))
    (hw : SameLetters w (tokenOf (stemOf n) j)) (hne : v ≠ w) : Clear v w := by
  rcases exists_cons_of_sameLetters hw with ⟨c, rest, hsplit, -, htail⟩
  have hwhole : ¬ Meets w v := by
    intro hm
    -- Texts that start alike have the same number, so they are as long as each other.
    have hij : j = i := by
      have hlowered := hm.lowered
      rw [hv, hw] at hlowered
      exact eq_of_meets_lowered hlowered
    subst hij
    have hlength := hv.length_eq.trans hw.length_eq.symm
    rcases hm with h | h
    · exact hne (h.eq_of_length hlength.symm).symm
    · exact hne (h.eq_of_length hlength)
  subst hsplit
  refine ⟨hwhole, clear_of_clear_start hv ?_⟩
  rw [htail]
  exact clear_lowered_tail n j

end Math
end Folio
