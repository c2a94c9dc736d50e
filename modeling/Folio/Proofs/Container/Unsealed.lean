import Folio.Proofs.Container.Sealed

/-!
# What sealing keeps

Sealing writes references for some line ends and leaves all else alone: with line ends for the
references again, a sealed text is the same as the text was (`unsealed_sealed`). None of its
lines but the last is blank, so there is nothing left to seal (`sealing_reversible`).
-/

namespace Folio
namespace Container

open Text

/-- A text with line ends for the references to them. -/
def unsealed (s : List Char) : List Char :=
  replaceAll lineEndReference ['\n'] s

/-!
## Line ends for references
-/

theorem unsealed_eq_apply (s : List Char) :
    unsealed s = (Rule.word lineEndReference ['\n']).apply s :=
  (Rule.apply_word (by decide) ['\n'] s).symm

/-- A reference does not reach over a character that can only be its first. -/
theorem unsealed_append_cons {c : Char} (hc : c ∉ lineEndReference.tail) (a b : List Char) :
    unsealed (a ++ c :: b) = unsealed a ++ unsealed (c :: b) := by
  rw [unsealed_eq_apply, unsealed_eq_apply, unsealed_eq_apply]
  apply Rule.apply_append
  rintro old new ⟨-, rfl, -⟩ front y z - hy hne hz
  cases y with
  | nil => exact absurd rfl hne
  | cons d y =>
      cases z with
      | nil => rfl
      | cons e z =>
          have he : e = c := (List.cons_prefix_cons.1 hz).1
          have htail : lineEndReference.tail = y ++ e :: z := by rw [hy]; rfl
          apply absurd _ hc
          rw [htail, he]
          exact List.mem_append_right y List.mem_cons_self

theorem unsealed_append_lineEnd (a b : List Char) :
    unsealed (a ++ '\n' :: b) = unsealed a ++ '\n' :: unsealed b := by
  have hend : unsealed ('\n' :: b) = '\n' :: unsealed b := by
    rw [unsealed_eq_apply, unsealed_eq_apply]
    exact Rule.apply_cons_of_none _ rfl
  rw [unsealed_append_cons (by decide), hend]

theorem unsealed_append_reference (a b : List Char) :
    unsealed (a ++ lineEndReference ++ b) = unsealed a ++ '\n' :: unsealed b := by
  have hturns : (Rule.word lineEndReference ['\n']).Turns lineEndReference ['\n'] :=
    ⟨by decide, rfl, rfl⟩
  have hreference : unsealed (lineEndReference ++ b) = '\n' :: unsealed b := by
    rw [unsealed_eq_apply, unsealed_eq_apply]
    exact Rule.apply_append_of_turns _ hturns b
  rw [← hreference, List.append_assoc]
  exact unsealed_append_cons (by decide) a _

/-!
## Sealed lines
-/

theorem joinWith_lineEnd {others : List (List Char)} (h : others ≠ []) (line : List Char) :
    joinWith ['\n'] (line :: others) = line ++ '\n' :: joinWith ['\n'] others := by
  rw [joinWith_cons h, List.append_assoc, List.singleton_append]

theorem joinWith_append_cons (sep a b : List Char) (rest : List (List Char)) :
    joinWith sep ((a ++ b) :: rest) = a ++ joinWith sep (b :: rest) := by
  cases rest with
  | nil => rfl
  | cons next more =>
      rw [joinWith_cons (List.cons_ne_nil _ _), joinWith_cons (List.cons_ne_nil _ _)]
      simp only [List.append_assoc]

/-- The induction is on the lines behind the one at hand, which grows while it is blank. -/
theorem unsealed_sealLines (current : List Char) (rest : List (List Char)) :
    unsealed (joinWith ['\n'] (sealLines current rest)) =
      unsealed (joinWith ['\n'] (current :: rest)) := by
  induction rest generalizing current with
  | nil => rfl
  | cons next rest ih =>
      rw [joinWith_lineEnd (List.cons_ne_nil next rest), unsealed_append_lineEnd, sealLines]
      split
      · rw [ih, joinWith_append_cons, unsealed_append_reference]
      · rw [joinWith_lineEnd (sealLines_ne_nil next rest), unsealed_append_lineEnd, ih]

theorem lineEnd_notMem_sealLines {current : List Char} {rest : List (List Char)}
    (h : ∀ line ∈ current :: rest, '\n' ∉ line) :
    ∀ line ∈ sealLines current rest, '\n' ∉ line := by
  induction rest generalizing current with
  | nil => exact h
  | cons next rest ih =>
      have hcurrent := h current List.mem_cons_self
      have hothers := (List.forall_mem_cons.1 h).2
      have hnext := hothers next List.mem_cons_self
      rw [sealLines]
      split
      · have hjoined : '\n' ∉ current ++ lineEndReference ++ next := by
          simp only [List.mem_append, not_or]
          exact ⟨⟨hcurrent, by decide⟩, hnext⟩
        exact ih (List.forall_mem_cons.2 ⟨hjoined, (List.forall_mem_cons.1 hothers).2⟩)
      · exact List.forall_mem_cons.2 ⟨hcurrent, ih hothers⟩

/-- A line is only left behind when it is not blank. -/
theorem allBlank_of_mem_sealLines (current : List Char) (rest : List (List Char)) :
    ∀ line ∈ (sealLines current rest).dropLast, allBlank line = false := by
  induction rest generalizing current with
  | nil =>
      intro line hline
      cases hline
  | cons next rest ih =>
      rw [sealLines]
      split
      · exact ih _
      · rename_i hblank
        rw [List.dropLast_cons_of_ne_nil (sealLines_ne_nil next rest)]
        exact List.forall_mem_cons.2 ⟨Bool.eq_false_iff.2 hblank, ih next⟩

/-- Where no line but the last is blank, there is nothing to seal. -/
theorem sealLines_eq_self {current : List Char} {rest : List (List Char)}
    (h : ∀ line ∈ (current :: rest).dropLast, allBlank line = false) :
    sealLines current rest = current :: rest := by
  induction rest generalizing current with
  | nil => rfl
  | cons next rest ih =>
      rw [List.dropLast_cons_of_ne_nil (List.cons_ne_nil _ _)] at h
      have hcurrent := h current List.mem_cons_self
      rw [sealLines, hcurrent, if_neg Bool.false_ne_true, ih (List.forall_mem_cons.1 h).2]

/-!
## Sealed texts
-/

/-- The lines of a sealed text are the sealed lines of the text. -/
theorem exists_splitOn_sealed (m : List Char) :
    exists first rest, splitOn '\n' m = first :: rest ∧
      sealed m = joinWith ['\n'] (sealLines first rest) ∧
      splitOn '\n' (sealed m) = sealLines first rest := by
  cases hlines : splitOn '\n' m with
  | nil => exact absurd hlines (splitOn_ne_nil '\n' m)
  | cons first rest =>
      have hsealed : sealed m = joinWith ['\n'] (sealLines first rest) := by
        rw [sealed, hlines]
      refine ⟨first, rest, rfl, hsealed, ?_⟩
      rw [hsealed]
      apply splitOn_joinWith (sealLines_ne_nil first rest)
      apply lineEnd_notMem_sealLines
      intro line hline hend
      rw [← hlines] at hline
      exact (mem_of_mem_splitOn hline _ hend).2 rfl

theorem unsealed_sealed (m : List Char) : unsealed (sealed m) = unsealed m := by
  rcases exists_splitOn_sealed m with ⟨first, rest, hlines, hsealed, -⟩
  rw [hsealed, unsealed_sealLines, ← hlines, joinWith_splitOn]

theorem allBlank_of_mem_lines_sealed (m : List Char) :
    ∀ line ∈ (splitOn '\n' (sealed m)).dropLast, allBlank line = false := by
  rcases exists_splitOn_sealed m with ⟨first, rest, -, -, hlines⟩
  rw [hlines]
  exact allBlank_of_mem_sealLines first rest

/-- A text of which no line but the last is blank is sealed as it stands. -/
theorem sealed_eq_self {s : List Char}
    (h : ∀ line ∈ (splitOn '\n' s).dropLast, allBlank line = false) : sealed s = s := by
  rcases exists_splitOn_sealed s with ⟨first, rest, hlines, hsealed, -⟩
  rw [hlines] at h
  rw [hsealed, sealLines_eq_self h, ← hlines, joinWith_splitOn]

/-- Sealing can be undone: with line ends for the references, a sealed text is what the text
itself is. It leaves no blank line but perhaps the last, and sealing again changes nothing. -/
theorem sealing_reversible (m : List Char) :
    unsealed (sealed m) = unsealed m ∧
      (∀ line ∈ (splitOn '\n' (sealed m)).dropLast, allBlank line = false) ∧
      sealed (sealed m) = sealed m := by
  have hblank := allBlank_of_mem_lines_sealed m
  exact ⟨unsealed_sealed m, hblank, sealed_eq_self hblank⟩

/-- Of two blank lines in a row the first takes the second with it. -/
example : sealed "a\n\n\nb".toList = "a\n&#10;\nb".toList := by decide

end Container
end Folio
