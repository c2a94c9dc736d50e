import Folio.Math.Piece

/-!
# Texts in turn

Some words stand in a text in turn if each of them stands behind the one before it.
Reading on behind the first place of each word finds them whenever they do
(`inTurn_cons_iff`), so texts that hold their words in turn can be put together
(`inTurn_append`).
-/

namespace Folio
namespace Text

/-- Whether words stand in a text one behind the other, in their order. -/
def inTurn : List (List Char) -> List Char -> Bool
  | [], _ => true
  | w :: rest, s =>
      match breakOn? w s with
      | none => false
      | some found => inTurn rest found.2

/-- Behind the first place of a word stands all that stands behind any other place. -/
theorem exists_breakOn? (w before after : List Char) :
    exists front between,
      breakOn? w (before ++ w ++ after) = some (front, between ++ after) := by
  induction before with
  | nil =>
      cases hw : w ++ after with
      | nil =>
          rcases List.append_eq_nil_iff.1 hw with ⟨rfl, rfl⟩
          exact ⟨[], [], rfl⟩
      | cons c rest =>
          refine ⟨[], [], ?_⟩
          rw [List.nil_append, hw, breakOn?, dropPrefix?_eq_some_iff.2 hw.symm]
          rfl
  | cons c before ih =>
      rw [List.cons_append, List.cons_append, breakOn?]
      cases hdrop : dropPrefix? w (c :: (before ++ w ++ after)) with
      | none =>
          rcases ih with ⟨front, between, hfound⟩
          rw [hfound]
          exact ⟨c :: front, between, rfl⟩
      | some rest =>
          have hs : (c :: before) ++ w ++ after = w ++ rest := dropPrefix?_eq_some_iff.1 hdrop
          have hlength : after.length ≤ rest.length := by
            have := congrArg List.length hs
            simp only [List.length_append, List.length_cons] at this
            omega
          have hsuffix : after <:+ rest :=
            List.suffix_of_suffix_length_le ⟨(c :: before) ++ w, hs⟩ (List.suffix_append w rest)
              hlength
          rcases hsuffix with ⟨between, rfl⟩
          exact ⟨[], between, rfl⟩

theorem inTurn_of_suffix {words : List (List Char)} {s t : List Char} (hsuffix : s <:+ t)
    (h : inTurn words s = true) : inTurn words t = true := by
  induction words generalizing s t with
  | nil => rfl
  | cons w rest ih =>
      rcases hsuffix with ⟨x, rfl⟩
      rw [inTurn] at h
      split at h
      · cases h
      · next found hfound =>
          rcases exists_breakOn? w (x ++ found.1) found.2 with ⟨front, between, hbehind⟩
          have hs : x ++ s = x ++ found.1 ++ w ++ found.2 := by
            rw [Math.eq_append_of_breakOn? hfound]
            simp only [List.append_assoc]
          rw [inTurn, hs, hbehind]
          exact ih (List.suffix_append between found.2) h

theorem inTurn_cons_iff {w s : List Char} {rest : List (List Char)} :
    inTurn (w :: rest) s = true ↔
      exists before after, s = before ++ w ++ after ∧ inTurn rest after = true := by
  constructor
  · intro h
    rw [inTurn] at h
    split at h
    · cases h
    · next found hfound => exact ⟨found.1, found.2, Math.eq_append_of_breakOn? hfound, h⟩
  · intro h
    rcases h with ⟨before, after, rfl, h⟩
    rcases exists_breakOn? w before after with ⟨front, between, hfound⟩
    rw [inTurn, hfound]
    exact inTurn_of_suffix (List.suffix_append between after) h

theorem inTurn_append {first others : List (List Char)} {s t : List Char}
    (hfirst : inTurn first s = true) (hothers : inTurn others t = true) :
    inTurn (first ++ others) (s ++ t) = true := by
  induction first generalizing s with
  | nil => exact inTurn_of_suffix (List.suffix_append s t) hothers
  | cons w first ih =>
      rcases inTurn_cons_iff.1 hfirst with ⟨before, after, rfl, hrest⟩
      refine inTurn_cons_iff.2 ⟨before, after ++ t, ?_, ih hrest⟩
      rw [List.append_assoc (before ++ w)]

theorem inTurn_of_sublist {words others : List (List Char)} (hsub : words.Sublist others)
    {s : List Char} (h : inTurn others s = true) : inTurn words s = true := by
  induction hsub generalizing s with
  | slnil => rfl
  | cons w _ ih =>
      rcases inTurn_cons_iff.1 h with ⟨before, after, rfl, hrest⟩
      exact inTurn_of_suffix (List.suffix_append (before ++ w) after) (ih hrest)
  | cons_cons w _ ih =>
      rcases inTurn_cons_iff.1 h with ⟨before, after, hs, hrest⟩
      exact inTurn_cons_iff.2 ⟨before, after, hs, ih hrest⟩

theorem inTurn_singleton {w s : List Char} (h : w <:+: s) : inTurn [w] s = true := by
  rcases h with ⟨before, after, rfl⟩
  exact inTurn_cons_iff.2 ⟨before, after, rfl, rfl⟩

end Text
end Folio
