import Folio.Prose.Block
import Folio.Prose.Marker

/-!
# Tables

A table is a line of cells with a line of hyphens and colons below it, which says how
the columns are aligned. Each of the following lines is a row, cut or filled up to the
width of the first.
-/

namespace Folio
namespace Prose

open Text

/-- Cut a line at its bars. A bar behind a backslash belongs to its cell, and loses the
backslash; `cell` holds the characters of the cell so far, in reverse. -/
def splitCells (cell : List Char) (escaped : Bool) : List Char -> List (List Char)
  | [] => [cell.reverse]
  | c :: rest =>
      if c = '|' then
        if escaped then
          splitCells (c :: cell.drop 1) false rest
        else
          cell.reverse :: splitCells [] false rest
      else
        splitCells (c :: cell) (c = '\\') rest

/-- Drop an empty cell at either end. -/
def dropEdges (cells : List (List Char)) : List (List Char) :=
  let cells := if cells.head? = some [] then cells.drop 1 else cells
  if cells.getLast? = some [] then cells.dropLast else cells

/-- The cells of a row. -/
def rowCells (l : Line) : List (List Char) :=
  (dropEdges (splitCells [] false (trimProse l.content))).map trimProse

/-- The alignment that a cell of the second line gives. -/
def align? (s : List Char) : Option Align :=
  let left := s.head? = some ':'
  let bare := if left then s.drop 1 else s
  let right := bare.getLast? = some ':'
  let hyphens := if right then bare.dropLast else bare
  if hyphens.isEmpty || !hyphens.all (· = '-') then none
  else if right then some (if left then .center else .right)
  else some (if left then .left else .plain)

/-- The alignments that the cells of the second line give. Only the first and the last
cell may be empty. -/
def aligns? (first : Bool) : List (List Char) -> Option (List Align)
  | [] => some []
  | cell :: rest =>
      let s := trimProse cell
      if s.isEmpty then
        if first || rest.isEmpty then aligns? false rest else none
      else
        match align? s with
        | some a => (aligns? false rest).map (a :: ·)
        | none => none

/-- Whether a character may stand in the second line. -/
def isRuler (c : Char) : Bool :=
  c = '|' || c = '-' || c = ':'

/-- Whether a line may be the second of a table. -/
def isSecond (s : List Char) : Bool :=
  match s with
  | a :: b :: rest =>
      isRuler a && (isRuler b || isSpace b) && !(a = '-' && isSpace b) &&
        rest.all fun c => isRuler c || isSpace c
  | _ => false

/-- The alignments and the first cells of the table that lines open. -/
def table? (f : Frame) (ls : List Line) : Option (List Align × List (List Char)) :=
  match ls with
  | first :: second :: _ =>
      if f.isLeft second || f.isCode second || !isSecond second.content then
        none
      else
        match aligns? true (splitOn '|' second.content) with
        | none => none
        | some aligns =>
            let cells := rowCells first
            if !first.content.contains '|' || f.isCode first || cells.isEmpty ||
                cells.length ≠ aligns.length then
              none
            else
              some (aligns, cells)
  | _ => none

/-- The cells of a row under the alignments of their columns. -/
def rowBlocks (header : Bool) : List Align -> List (List Char) -> List Block
  | [], _ => []
  | a :: as, [] => .cell header a [] :: rowBlocks header as []
  | a :: as, c :: cs => .cell header a c :: rowBlocks header as cs

/-- A row. -/
def row (header : Bool) (aligns : List Align) (cells : List (List Char)) : List Block :=
  .start .row :: rowBlocks header aligns cells ++ [.stop .row]

/-- How many cells may be filled up in one table. -/
def fillLimit : Int := 65536

/-- The rows of a table and the lines after it. `filled` cells were missing so far. -/
def tableRows (ends : List Line -> Bool) (f : Frame) (aligns : List Align) (filled : Int) :
    List Line -> List Block × List Line
  | [] => ([], [])
  | l :: rest =>
      let cells := rowCells l
      let filled := filled + aligns.length - cells.length
      if f.isLeft l || ends (l :: rest) || (trimProse l.content).isEmpty || f.isCode l ||
          fillLimit < filled then
        ([], l :: rest)
      else
        let others := tableRows ends f aligns filled rest
        (row false aligns cells ++ others.1, others.2)

/-- A table with its rows. -/
def tableOf (aligns : List Align) (first : List (List Char)) (rows : List Block) :
    List Block :=
  let body :=
    if rows.isEmpty then [] else .start .body :: rows ++ [.stop .body]
  .start .table :: .start .head :: row true aligns first ++ .stop .head :: body ++ [.stop .table]

end Prose
end Folio
