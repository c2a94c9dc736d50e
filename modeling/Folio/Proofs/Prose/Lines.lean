import Folio.Prose.Render
import Folio.Proofs.Text.Cut

/-!
# The lines of a text

Line ends may have three forms, and a text is read in lines after all of them were made one.
A text with a line end in it has the lines up to there, and then those of the rest
(`sourceLines_append`). No line of a text is left of the outermost frame, and one is empty if
it holds nothing but spaces and tabs.
-/

namespace Folio
namespace Prose

open Text

/-- The lines of a text with line ends of any form. -/
def sourceLines (s : List Char) : List Line :=
  lines (normalizeLines s)

/-- Whether a line of a text holds nothing but spaces and tabs. -/
def holdsBlankLine (s : List Char) : Bool :=
  (sourceLines s).any Line.isEmpty

/-!
## Cutting at line ends
-/

theorem normalizeLines_cons {c : Char} (hc : c ≠ '\r') (s : List Char) :
    normalizeLines (c :: s) =
      (if c.toNat = 0 then Char.ofNat 0xFFFD else c) :: normalizeLines s := by
  rw [normalizeLines]
  · intro _ h _
    exact hc h
  · intro h
    exact hc h

/-- A line end stays where it is, whatever stands behind it. -/
theorem exists_normalizeLines (u : List Char) :
    exists w, forall v, normalizeLines (u ++ '\n' :: v) = w ++ '\n' :: normalizeLines v := by
  have hnewline (v : List Char) : normalizeLines ('\n' :: v) = '\n' :: normalizeLines v := by
    rw [normalizeLines_cons (by decide)]
    rfl
  fun_induction normalizeLines u with
  | case1 => exact ⟨[], hnewline⟩
  | case2 rest ih =>
      rcases ih with ⟨w, hw⟩
      refine ⟨'\n' :: w, ?_⟩
      intro v
      rw [List.cons_append, List.cons_append, normalizeLines, hw, List.cons_append]
  | case3 rest hne ih =>
      rcases ih with ⟨w, hw⟩
      cases rest with
      | nil =>
          refine ⟨[], ?_⟩
          intro v
          rw [List.cons_append, List.nil_append, normalizeLines, List.nil_append]
      | cons c rest =>
          refine ⟨'\n' :: w, ?_⟩
          intro v
          rw [List.cons_append, normalizeLines, hw, List.cons_append]
          intro more h
          injection h with h
          exact hne rest (by rw [h])
  | case4 c rest hpair hreturn ih =>
      rcases ih with ⟨w, hw⟩
      refine ⟨(if c.toNat = 0 then Char.ofNat 0xFFFD else c) :: w, ?_⟩
      intro v
      have hc : c ≠ '\r' := by
        rintro rfl
        exact hreturn rfl
      rw [List.cons_append, normalizeLines_cons hc, hw, List.cons_append]

theorem ofPieces_append {a b : List (List Char)} (hb : b ≠ []) :
    lines.ofPieces (a ++ b) = a.map (Line.ofText · true) ++ lines.ofPieces b := by
  induction a with
  | nil => rfl
  | cons piece rest ih =>
      cases hrest : rest ++ b with
      | nil => exact absurd (List.append_eq_nil_iff.1 hrest).2 hb
      | cons next others =>
          rw [List.cons_append, hrest, lines.ofPieces, ← hrest, ih, List.map_cons,
            List.cons_append]
          intro h
          cases h

theorem lines_append (w v : List Char) :
    lines (w ++ '\n' :: v) = (splitOn '\n' w).map (Line.ofText · true) ++ lines v := by
  rw [lines, splitOn_append, ofPieces_append (splitOn_ne_nil '\n' v), lines]

theorem lines_ended (w : List Char) :
    lines (w ++ ['\n']) = (splitOn '\n' w).map (Line.ofText · true) := by
  rw [lines_append]
  exact List.append_nil _

/-- A text with a line end has the lines up to that, and then the lines of the rest. -/
theorem sourceLines_append (u v : List Char) :
    sourceLines (u ++ '\n' :: v) = sourceLines (u ++ ['\n']) ++ sourceLines v := by
  rcases exists_normalizeLines u with ⟨w, hw⟩
  rw [sourceLines, sourceLines, hw, hw, lines_append]
  exact congrArg (· ++ lines (normalizeLines v)) (lines_ended w).symm

theorem sourceLines_newline (v : List Char) :
    sourceLines ('\n' :: v) = Line.ofText [] true :: sourceLines v := by
  have hempty : sourceLines ['\n'] = [Line.ofText [] true] := by decide
  have hsplit := sourceLines_append [] v
  rwa [List.nil_append, List.nil_append, hempty] at hsplit

theorem holdsBlankLine_append (u v : List Char) :
    holdsBlankLine (u ++ '\n' :: v) = (holdsBlankLine (u ++ ['\n']) || holdsBlankLine v) := by
  rw [holdsBlankLine, sourceLines_append, List.any_append]
  rfl

/-!
## Single lines
-/

theorem exists_of_mem_sourceLines {s : List Char} {l : Line} (h : l ∈ sourceLines s) :
    exists text ended, l = Line.ofText text ended := by
  have hpieces (pieces : List (List Char)) (h : l ∈ lines.ofPieces pieces) :
      exists text ended, l = Line.ofText text ended := by
    fun_induction lines.ofPieces pieces with
    | case1 => cases h
    | case2 last hlast => cases h
    | case3 last hlast => exact ⟨last, false, List.mem_singleton.1 h⟩
    | case4 piece rest _ ih =>
        rcases List.mem_cons.1 h with h | h
        · exact ⟨piece, true, h⟩
        · exact ih h
  exact hpieces _ h

theorem isEmpty_ofText (text : List Char) (ended : Bool) :
    (Line.ofText text ended).isEmpty = text.all isSpace := by
  have hdrop (column : Nat) :
      (text.drop (passSpaces 0 column text).1).isEmpty = text.all isSpace := by
    induction text generalizing column with
    | nil => rfl
    | cons c rest ih =>
        rw [passSpaces, List.all_cons]
        split
        · rename_i hc
          rw [hc, Bool.true_and]
          exact ih _
        · rename_i hc
          rw [Bool.not_eq_true] at hc
          rw [hc]
          rfl
  exact hdrop 0

theorem isLeft_ofText (text : List Char) (ended : Bool) :
    Frame.isLeft ⟨0, none⟩ (Line.ofText text ended) = false := by
  rw [Frame.isLeft, Line.ofText, decide_eq_false_iff_not]
  exact Int.not_lt.2 (Int.natCast_nonneg _)

theorem cut_zero (l : Line) : l.cut 0 = l.text := by
  rw [Line.cut]
  cases l.text with
  | nil => rfl
  | cons c rest =>
      rw [Line.cutFrom, if_pos (Nat.zero_le 0)]
      rfl

theorem sourceLines_ended_ne_nil (s : List Char) : sourceLines (s ++ ['\n']) ≠ [] := by
  rcases exists_normalizeLines s with ⟨w, hw⟩
  rw [sourceLines, hw, normalizeLines, lines_ended]
  intro hnil
  exact splitOn_ne_nil '\n' w (List.map_eq_nil_iff.1 hnil)

/-- One line with its end is blank if it holds nothing but spaces and tabs. -/
theorem holdsBlankLine_ended {s : List Char} (hnewline : '\n' ∉ s) (hreturn : '\r' ∉ s) :
    holdsBlankLine (s ++ ['\n']) = s.all isSpace := by
  have hkept (c : Char) : (if c.toNat = 0 then Char.ofNat 0xFFFD else c) = '\n' -> c = '\n' := by
    split
    · intro h
      exact absurd h (by decide)
    · exact id
  have hspace (c : Char) : isSpace (if c.toNat = 0 then Char.ofNat 0xFFFD else c) = isSpace c := by
    split
    · rename_i hc
      rw [← Char.ofNat_toNat c, hc]
      decide
    · rfl
  have hnormal : exists t, normalizeLines (s ++ ['\n']) = t ++ ['\n'] ∧ '\n' ∉ t ∧
      t.all isSpace = s.all isSpace := by
    induction s with
    | nil => exact ⟨[], rfl, List.not_mem_nil, rfl⟩
    | cons c rest ih =>
        rw [List.mem_cons, not_or] at hnewline hreturn
        rcases ih hnewline.2 hreturn.2 with ⟨t, ht, hnone, hall⟩
        refine ⟨(if c.toNat = 0 then Char.ofNat 0xFFFD else c) :: t, ?_, ?_, ?_⟩
        · rw [List.cons_append, normalizeLines_cons fun hc => hreturn.1 hc.symm, ht,
            List.cons_append]
        · rw [List.mem_cons, not_or]
          exact ⟨fun h => hnewline.1 (hkept c h.symm).symm, hnone⟩
        · rw [List.all_cons, List.all_cons, hspace, hall]
  rcases hnormal with ⟨t, ht, hnone, hall⟩
  rw [holdsBlankLine, sourceLines, ht, lines_ended, splitOn_of_notMem hnone, List.map_singleton,
    List.any_cons, List.any_nil, Bool.or_false, isEmpty_ofText, hall]

/-- Lines with their ends are the text again. -/
theorem cutEnded_lines (w : List Char) : cutEnded 0 (lines (w ++ ['\n'])) = w ++ ['\n'] := by
  have hjoin (pieces : List (List Char)) (hne : pieces ≠ []) :
      cutEnded 0 (pieces.map (Line.ofText · true)) = joinWith ['\n'] pieces ++ ['\n'] := by
    induction pieces with
    | nil => exact absurd rfl hne
    | cons piece rest ih =>
        rw [List.map_cons, cutEnded, List.flatMap_cons, cut_zero, ← cutEnded]
        cases rest with
        | nil => exact List.append_nil _
        | cons next others =>
            rw [ih (List.cons_ne_nil next others)]
            show _ = piece ++ ['\n'] ++ joinWith ['\n'] (next :: others) ++ ['\n']
            simp only [Line.ofText, if_true, List.append_assoc]
  rw [lines_ended, hjoin _ (splitOn_ne_nil '\n' w), joinWith_splitOn]

end Prose
end Folio
