import Folio.Heading.Anchors
import Folio.Html.Escape
import Folio.Proofs.Math.Token
import Folio.Proofs.Text.CaseRun
import Folio.Proofs.Text.Lowered
import Folio.Proofs.Text.Occurrence

/-!
# Letters of anchors

The name of a heading is lowered, so its anchor holds no capital letter from A to Z. It
holds nothing that markup gives a meaning, so an anchor is written as it is.
-/

namespace Folio
namespace Text

/-!
## Lowered texts
-/

/-- No run moves a letter to a capital letter from A to Z. -/
theorem lowerRuns_avoid_capitals :
    ∀ run ∈ lowerRuns, run.last + run.offset < 65 ∨ 90 < run.first + run.offset :=
  forall_mem_of_all (by decide)

theorem mapCase_lowerRuns (n : Nat) : mapCase lowerRuns n < 65 ∨ 90 < mapCase lowerRuns n := by
  rcases mapCase_cases lowerRuns n with ⟨hnone, hstays⟩ | ⟨run, hrun, htarget⟩
  · -- The capital letters themselves are moved by the first run.
    have hfirst : (⟨0x41, 0x5A, 1, 32⟩ : CaseRun).target? n = none :=
      hnone _ List.mem_cons_self
    rw [hstays]
    by_contra hcapital
    rw [CaseRun.target?, if_pos] at hfirst
    · cases hfirst
    · simp only [Nat.mod_one, and_true]
      omega
  · have havoid := lowerRuns_avoid_capitals run hrun
    rcases CaseRun.target?_eq_some_iff.1 htarget with ⟨⟨hfirst, hlast, -⟩, hvalue⟩
    omega

theorem isUpper_of_mem_lowerChar {c d : Char} (h : d ∈ lowerChar c) : d.isUpper = false := by
  unfold lowerChar at h
  split at h
  · rcases List.mem_cons.1 h with rfl | h
    · decide
    · rw [List.mem_singleton.1 h]
      decide
  · rw [List.mem_singleton.1 h]
    apply isUpper_eq_false
    rw [toNat_lowered]
    exact mapCase_lowerRuns c.toNat

/-- A lowered text holds no capital letter from A to Z. -/
theorem isUpper_of_mem_lower {s : List Char} {d : Char} (h : d ∈ lower s) :
    d.isUpper = false := by
  rcases mem_lowerFrom h with ⟨c, -, hd | ⟨-, rfl⟩⟩
  · exact isUpper_of_mem_lowerChar hd
  · decide

end Text

namespace Heading

open Text

/-!
## Names and anchors
-/

theorem mem_of_mem_hyphenated {inRun : Bool} {s : List Char} {d : Char}
    (h : d ∈ hyphenated inRun s) : d = '-' ∨ d ∈ s := by
  induction s generalizing inRun with
  | nil => cases h
  | cons c rest ih =>
      have hrest : forall r, d ∈ hyphenated r rest -> d = '-' ∨ d ∈ c :: rest := by
        intro r hmem
        exact (ih hmem).imp_right (List.mem_cons_of_mem c)
      unfold hyphenated at h
      split at h
      · split at h
        · exact hrest true h
        · rcases List.mem_cons.1 h with hd | h
          · exact Or.inl hd
          · exact hrest true h
      · rcases List.mem_cons.1 h with rfl | h
        · exact Or.inr List.mem_cons_self
        · exact hrest false h

theorem mem_of_mem_stripHyphens {s : List Char} {d : Char} (h : d ∈ stripHyphens s) : d ∈ s := by
  rcases dropRightWhile_append (· = '-') (s.dropWhile (· = '-')) with ⟨tail, htail, -⟩
  apply (List.dropWhile_sublist (· = '-')).subset
  rw [htail]
  exact List.mem_append_left tail h

theorem isUpper_of_mem_slug {text : List Char} {d : Char} (h : d ∈ slug text) :
    d.isUpper = false := by
  unfold slug at h
  simp only at h
  split at h
  · revert d
    simp
  · rcases mem_of_mem_hyphenated (mem_of_mem_stripHyphens h) with rfl | hlower
    · decide
    · exact isUpper_of_mem_lower hlower

/-- An anchor holds no capital letter from A to Z. -/
theorem isUpper_of_mem_anchor {text : List Char} {count : Nat} {d : Char}
    (h : d ∈ anchor text count) : d.isUpper = false := by
  rcases List.mem_append.1 h with hslug | hcount
  · exact isUpper_of_mem_slug hslug
  · rcases List.mem_cons.1 hcount with rfl | hdigit
    · decide
    · exact isUpper_of_isDigit (Math.isDigit_of_mem_digitsOf hdigit)

/-!
## Signs of markup
-/

/-- A character with a property that no sign has is written as it is. -/
theorem quotedChar_eq_self {P : Char -> Prop} (hsigns : ¬ P '"' ∧ ¬ P '&' ∧ ¬ P '<' ∧ ¬ P '>')
    {c : Char} (h : P c) : Html.quotedChar c = [c] := by
  have hne : forall d, ¬ P d -> c ≠ d := by
    intro d hd hc
    exact hd (hc ▸ h)
  rcases hsigns with ⟨hquote, hand, hopen, hclose⟩
  rw [Html.quotedChar, if_neg (hne '"' hquote), Html.textChar, if_neg (hne '&' hand),
    if_neg (hne '<' hopen), if_neg (hne '>' hclose)]

theorem quotedChar_of_lt {c : Char} (h : 62 < c.toNat) : Html.quotedChar c = [c] :=
  quotedChar_eq_self (P := fun c => 62 < c.toNat) (by decide) h

/-- A character that counts for a name is written as it is. -/
theorem quotedChar_of_counts {c : Char} (h : counts c = true) : Html.quotedChar c = [c] :=
  quotedChar_eq_self (P := fun c => counts c = true) (by decide) h

theorem quotedChar_of_isDigit {c : Char} (h : c.isDigit = true) : Html.quotedChar c = [c] :=
  quotedChar_eq_self (P := fun c => c.isDigit = true) (by decide) h

theorem lowerRuns_avoid_signs : ∀ run ∈ lowerRuns, 62 < run.first + run.offset :=
  forall_mem_of_all (by decide)

theorem mapCase_lowerRuns_eq_or (n : Nat) :
    mapCase lowerRuns n = n ∨ 62 < mapCase lowerRuns n := by
  rcases mapCase_cases lowerRuns n with ⟨-, hstays⟩ | ⟨run, hrun, htarget⟩
  · exact Or.inl hstays
  · have havoid := lowerRuns_avoid_signs run hrun
    rcases CaseRun.target?_eq_some_iff.1 htarget with ⟨⟨hfirst, -, -⟩, hvalue⟩
    omega

theorem quotedChar_of_mem_lowerChar {c d : Char} (hc : Html.quotedChar c = [c])
    (h : d ∈ lowerChar c) : Html.quotedChar d = [d] := by
  unfold lowerChar at h
  split at h
  · rcases List.mem_cons.1 h with rfl | h
    · decide
    · rw [List.mem_singleton.1 h]
      decide
  · rw [List.mem_singleton.1 h]
    rcases mapCase_lowerRuns_eq_or c.toNat with hsame | hlarge
    · rw [hsame, Char.ofNat_toNat]
      exact hc
    · apply quotedChar_of_lt
      rwa [toNat_lowered]

theorem quotedChar_of_mem_lowerFrom {before s : List Char} {d : Char}
    (hs : ∀ c ∈ s, Html.quotedChar c = [c]) (h : d ∈ lowerFrom before s) :
    Html.quotedChar d = [d] := by
  rcases mem_lowerFrom h with ⟨c, hc, hd | ⟨-, rfl⟩⟩
  · exact quotedChar_of_mem_lowerChar (hs c hc) hd
  · decide

theorem mem_of_mem_trim {s : List Char} {d : Char} (h : d ∈ trim s) : d ∈ s := by
  rcases dropRightWhile_append isBlank (s.dropWhile isBlank) with ⟨tail, htail, -⟩
  apply (List.dropWhile_sublist isBlank).subset
  rw [htail]
  exact List.mem_append_left tail h

/-- Everything in an anchor is written as it is. -/
theorem quotedChar_of_mem_anchor {text : List Char} {count : Nat} {d : Char}
    (h : d ∈ anchor text count) : Html.quotedChar d = [d] := by
  rcases List.mem_append.1 h with hslug | hcount
  · unfold slug at hslug
    simp only at hslug
    split at hslug
    · have hall : "section".toList.all (fun d => Html.quotedChar d = [d]) = true := by decide
      exact forall_mem_of_all hall d hslug
    · rcases mem_of_mem_hyphenated (mem_of_mem_stripHyphens hslug) with rfl | hlower
      · decide
      · refine quotedChar_of_mem_lowerFrom ?_ hlower
        intro c hc
        exact quotedChar_of_counts (List.mem_filter.1 (mem_of_mem_trim hc)).2
  · rcases List.mem_cons.1 hcount with rfl | hdigit
    · decide
    · exact quotedChar_of_isDigit (Math.isDigit_of_mem_digitsOf hdigit)

theorem escapeQuoted_anchor (text : List Char) (count : Nat) :
    Html.escapeQuoted (anchor text count) = anchor text count :=
  flatMap_eq_self fun _ => quotedChar_of_mem_anchor

/-!
## Counts
-/

/-- An anchor tells its count: the digits behind the last hyphen. -/
theorem count_eq_of_anchor_eq {text other : List Char} {m n : Nat}
    (h : anchor text m = anchor other n) : m = n := by
  have hdigits : forall k, ∀ c ∈ (Number.digitsOf k).reverse, (c != '-') = true := by
    intro k c hc
    have hdigit := Math.isDigit_of_mem_digitsOf (List.mem_reverse.1 hc)
    rw [bne_iff_ne]
    rintro rfl
    exact absurd hdigit (by decide)
  have hlast : forall (text : List Char) k,
      (anchor text k).reverse.takeWhile (· != '-') = (Number.digitsOf k).reverse := by
    intro text k
    rw [anchor, List.reverse_append, List.reverse_cons, List.append_assoc,
      List.takeWhile_append_of_pos (hdigits k), List.singleton_append]
    simp
  apply Math.digitsOf_injective
  rw [← List.reverse_inj, ← hlast text m, ← hlast other n, h]

end Heading
end Folio
