import Folio.Math.Code

/-!
# Math in a source text

A text is cut into pieces: text that is kept, and math in one or two dollar signs.
Code is kept whole. In prose, math between double dollars claims its place first,
and single dollars are only looked for in what is left between.

`flatMap_source_pieces` says that the pieces, each in its own delimiters, are the text.
-/

namespace Folio
namespace Math

open Text

/-- A piece of a source text. -/
inductive Piece where
  /-- Code, which is kept. -/
  | code (text : List Char)
  /-- Prose, which is kept. -/
  | prose (text : List Char)
  /-- Math, set in a line of its own or within a line. -/
  | math (expression : List Char) (display : Bool)
  deriving DecidableEq, Repr

/-- The delimiter of math. -/
def delimiter (display : Bool) : List Char :=
  if display then ['$', '$'] else ['$']

/-- A piece as it stands in the source. -/
def Piece.source : Piece -> List Char
  | .code s => s
  | .prose s => s
  | .math expression display => delimiter display ++ expression ++ delimiter display

/-- Put a character in front of the first piece, if that is prose, or else in a piece
of its own. -/
def consPiece (c : Char) : List Piece -> List Piece
  | .prose s :: rest => .prose (c :: s) :: rest
  | rest => .prose [c] :: rest

/-- The text up to a dollar sign that closes math within a line, and what follows. -/
def inlineEnd? : List Char -> Option (List Char × List Char)
  | [] => none
  | c :: rest =>
      if c = '$' then some ([], rest)
      else if c = '\n' then none
      else (inlineEnd? rest).map fun found => (c :: found.1, found.2)

/-- Math within a line at the start of a text: its expression and what follows. -/
def inline? : List Char -> Option (List Char × List Char)
  | '$' :: rest =>
      match inlineEnd? rest with
      | some ([], _) => none
      | found => found
  | _ => none

/-- Math in a line of its own at the start of a text. -/
def display? : List Char -> Option (List Char × List Char)
  | '$' :: '$' :: c :: rest =>
      (breakOn? ['$', '$'] rest).map fun found => (c :: found.1, found.2)
  | _ => none

theorem eq_append_of_inlineEnd? {s : List Char} {found : List Char × List Char}
    (h : inlineEnd? s = some found) : s = found.1 ++ '$' :: found.2 := by
  induction s generalizing found with
  | nil => cases h
  | cons c rest ih =>
      simp only [inlineEnd?] at h
      split at h
      · rename_i hc
        cases h
        simp [hc]
      · split at h
        · cases h
        · rw [Option.map_eq_some_iff] at h
          obtain ⟨f, hf, rfl⟩ := h
          simp [ih hf]

theorem eq_append_of_inline? {s : List Char} {found : List Char × List Char}
    (h : inline? s = some found) :
    s = '$' :: found.1 ++ '$' :: found.2 ∧ found.1 ≠ [] := by
  unfold inline? at h
  split at h
  · rename_i rest
    split at h
    · cases h
    · rename_i hne
      refine ⟨by rw [eq_append_of_inlineEnd? h]; rfl, ?_⟩
      intro he
      obtain ⟨e, r⟩ := found
      subst he
      exact hne r h
  · cases h

theorem eq_append_of_breakOn? {part s : List Char} {found : List Char × List Char}
    (h : breakOn? part s = some found) : s = found.1 ++ part ++ found.2 := by
  induction s generalizing found with
  | nil =>
      simp only [breakOn?] at h
      split at h
      · rename_i hp
        cases h
        simpa using hp
      · cases h
  | cons c rest ih =>
      simp only [breakOn?] at h
      split at h
      · rename_i after hp
        cases h
        simpa using dropPrefix?_eq_some_iff.1 hp
      · rw [Option.map_eq_some_iff] at h
        obtain ⟨f, hf, rfl⟩ := h
        simp [ih hf]

theorem eq_append_of_display? {s : List Char} {found : List Char × List Char}
    (h : display? s = some found) :
    s = '$' :: '$' :: found.1 ++ '$' :: '$' :: found.2 ∧ found.1 ≠ [] := by
  unfold display? at h
  split at h
  · rw [Option.map_eq_some_iff] at h
    obtain ⟨f, hf, rfl⟩ := h
    rw [eq_append_of_breakOn? hf]
    simp
  · cases h

/-- Cut prose at the math within its lines. -/
def inlinePieces (s : List Char) : List Piece :=
  match s with
  | [] => []
  | c :: rest =>
      match _h : inline? (c :: rest) with
      | some found => .math found.1 false :: inlinePieces found.2
      | none => consPiece c (inlinePieces rest)
termination_by s.length
decreasing_by
  · have h1 := congrArg List.length (eq_append_of_inline? _h).1
    simp only [List.length_append, List.length_cons] at h1 ⊢
    omega
  · simp

/-- Cut prose at math in lines of its own, and then at the math within lines. The
characters passed since the last math are given in reverse. -/
def displayPieces (passed : List Char) (s : List Char) : List Piece :=
  match s with
  | [] => inlinePieces passed.reverse
  | c :: rest =>
      match _h : display? (c :: rest) with
      | some found =>
          inlinePieces passed.reverse ++ .math found.1 true :: displayPieces [] found.2
      | none => displayPieces (c :: passed) rest
termination_by s.length
decreasing_by
  · have h1 := congrArg List.length (eq_append_of_display? _h).1
    simp only [List.length_append, List.length_cons] at h1 ⊢
    omega
  · simp

/-- Cut a stretch of a source text. -/
def ofStretch : Stretch -> List Piece
  | .prose text => displayPieces [] text
  | .fence text => [.code text]
  | .span text => [.code text]

/-- Cut a source text into code, prose and math. -/
def pieces (s : List Char) : List Piece :=
  (stretches s).flatMap ofStretch

/-! ## Nothing is lost -/

theorem flatMap_source_consPiece (c : Char) (l : List Piece) :
    (consPiece c l).flatMap Piece.source = c :: l.flatMap Piece.source := by
  unfold consPiece
  split <;> simp [Piece.source]

theorem flatMap_source_inlinePieces (s : List Char) :
    (inlinePieces s).flatMap Piece.source = s := by
  fun_induction inlinePieces s with
  | case1 => rfl
  | case2 c rest found h ih =>
      have := (eq_append_of_inline? h).1
      simp only [List.flatMap_cons, Piece.source, ih, delimiter]
      rw [this]
      simp
  | case3 c rest _ ih => rw [flatMap_source_consPiece, ih]

theorem flatMap_source_displayPieces (passed s : List Char) :
    (displayPieces passed s).flatMap Piece.source = passed.reverse ++ s := by
  fun_induction displayPieces passed s with
  | case1 passed => simp [flatMap_source_inlinePieces]
  | case2 passed c rest found h ih =>
      have := (eq_append_of_display? h).1
      rw [List.flatMap_append, flatMap_source_inlinePieces, List.flatMap_cons, ih, this]
      simp [Piece.source, delimiter]
  | case3 passed c rest _ ih => simp [ih]

theorem flatMap_source_ofStretch (x : Stretch) :
    (ofStretch x).flatMap Piece.source = x.text := by
  cases x <;> simp [ofStretch, Stretch.text, Piece.source, flatMap_source_displayPieces]

theorem flatMap_source_flatMap_ofStretch (l : List Stretch) :
    (l.flatMap ofStretch).flatMap Piece.source = l.flatMap Stretch.text := by
  induction l with
  | nil => rfl
  | cons x rest ih => simp [flatMap_source_ofStretch, ih]

/-- The pieces, each in its own delimiters, are the source text. -/
theorem flatMap_source_pieces (s : List Char) : (pieces s).flatMap Piece.source = s := by
  rw [pieces, flatMap_source_flatMap_ofStretch, flatMap_text_stretches]

end Math
end Folio
