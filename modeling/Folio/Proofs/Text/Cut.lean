import Folio.Text.Search

/-!
# Cutting a text

A text is cut at every occurrence of a character, and the parts do not hold it. Cutting undoes
putting the character between parts.
-/

namespace Folio
namespace Text

theorem splitOn_append (sep : Char) (u v : List Char) :
    splitOn sep (u ++ sep :: v) = splitOn sep u ++ splitOn sep v := by
  induction u with
  | nil => simp only [List.nil_append, splitOn, if_true, List.singleton_append]
  | cons c rest ih =>
      rw [List.cons_append, splitOn, splitOn, ih]
      split
      · rfl
      · cases hrest : splitOn sep rest with
        | nil => exact absurd hrest (splitOn_ne_nil sep rest)
        | cons first others => rfl

theorem splitOn_of_notMem {sep : Char} {s : List Char} (h : sep ∉ s) : splitOn sep s = [s] := by
  induction s with
  | nil => rfl
  | cons c rest ih =>
      rw [List.mem_cons, not_or] at h
      rw [splitOn, if_neg fun hc => h.1 hc.symm, ih h.2]

/-- The parts of a text hold what the text does, but not the character it is cut at. -/
theorem mem_of_mem_splitOn {sep : Char} {s t : List Char} (h : t ∈ splitOn sep s) :
    ∀ c ∈ t, c ∈ s ∧ c ≠ sep := by
  induction s generalizing t with
  | nil =>
      rw [List.mem_singleton.1 h]
      simp only [List.not_mem_nil, false_implies, implies_true]
  | cons d rest ih =>
      intro c hc
      have hmore {u : List Char} (hu : u ∈ splitOn sep rest) (hc : c ∈ u) :
          c ∈ d :: rest ∧ c ≠ sep :=
        ⟨List.mem_cons_of_mem d (ih hu c hc).1, (ih hu c hc).2⟩
      rw [splitOn] at h
      split at h
      · rcases List.mem_cons.1 h with rfl | h
        · cases hc
        · exact hmore h hc
      · rename_i hd
        cases hrest : splitOn sep rest with
        | nil => exact absurd hrest (splitOn_ne_nil sep rest)
        | cons first others =>
            rw [hrest] at h
            rcases List.mem_cons.1 h with rfl | h
            · rcases List.mem_cons.1 hc with rfl | hc
              · exact ⟨List.mem_cons_self, hd⟩
              · exact hmore (hrest ▸ List.mem_cons_self) hc
            · exact hmore (hrest ▸ List.mem_cons_of_mem first h) hc

theorem joinWith_cons {sep part : List Char} {others : List (List Char)} (h : others ≠ []) :
    joinWith sep (part :: others) = part ++ sep ++ joinWith sep others := by
  cases others with
  | nil => exact absurd rfl h
  | cons next more => rfl

/-- Putting a character between parts that do not hold it and cutting at it gives the parts. -/
theorem splitOn_joinWith {sep : Char} {parts : List (List Char)} (hne : parts ≠ [])
    (h : ∀ part ∈ parts, sep ∉ part) : splitOn sep (joinWith [sep] parts) = parts := by
  induction parts with
  | nil => exact absurd rfl hne
  | cons part others ih =>
      have hpart := splitOn_of_notMem (h part List.mem_cons_self)
      by_cases hothers : others = []
      · rw [hothers, joinWith, hpart]
      · have hrest := ih hothers fun p hp => h p (List.mem_cons_of_mem part hp)
        rw [joinWith_cons hothers, List.append_assoc, List.singleton_append, splitOn_append, hpart,
          hrest, List.singleton_append]

/-- The length of parts, with one more for each. -/
def span : List (List Char) -> Nat
  | [] => 0
  | part :: others => part.length + 1 + span others

theorem span_append (a b : List (List Char)) : span (a ++ b) = span a + span b := by
  induction a with
  | nil => exact (Nat.zero_add _).symm
  | cons part others ih =>
      rw [List.cons_append, span, span, ih]
      omega

theorem span_filter_le (p : List Char -> Bool) (parts : List (List Char)) :
    span (parts.filter p) ≤ span parts := by
  induction parts with
  | nil => exact Nat.le_refl _
  | cons part others ih =>
      rw [List.filter_cons, span]
      split
      · rw [span]
        omega
      · omega

/-- The parts of a text are as long as the text and the characters that it was cut at. -/
theorem span_splitOn (sep : Char) (s : List Char) : span (splitOn sep s) = s.length + 1 := by
  induction s with
  | nil => rfl
  | cons c rest ih =>
      rw [splitOn]
      split
      · rw [span, ih, List.length_nil, List.length_cons]
        omega
      · cases hrest : splitOn sep rest with
        | nil => exact absurd hrest (splitOn_ne_nil sep rest)
        | cons first others =>
            rw [hrest, span] at ih
            simp only [span, List.length_cons]
            omega

end Text
end Folio
