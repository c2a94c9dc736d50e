import Folio.Text.Blank
import Folio.Text.Search

/-!
# Lines

A text is read line by line. A line keeps its characters, and beside them how many
belong to the margin and how wide the margin is once tabs are expanded. Quotes and list
items move the margin; the characters of a line are cut only when its content is taken
out.
-/

namespace Folio
namespace Prose

open Text

/-- A line of a text. -/
structure Line where
  /-- The characters, without a line end. -/
  text : List Char
  /-- How many characters belong to the margin. -/
  margin : Nat
  /-- The width of the margin; a line that only continues a paragraph has none, which
  is written as `-1`. -/
  indent : Int
  /-- The column in which the text starts, for the expansion of tabs. -/
  base : Nat
  /-- Whether a line end follows. -/
  ended : Bool
  deriving DecidableEq, Repr, Inhabited

/-- The column after a space or a tab that stands in a given column. -/
def columnAfter (c : Char) (base column : Nat) : Nat :=
  if c = '\t' then column + (4 - (column + base) % 4) else column + 1

/-- Pass over spaces and tabs: how many there are, and the column after them. -/
def passSpaces (base column : Nat) : List Char -> Nat × Nat
  | [] => (0, column)
  | c :: rest =>
      if isSpace c then
        let passed := passSpaces base (columnAfter c base column) rest
        (passed.1 + 1, passed.2)
      else
        (0, column)

namespace Line

/-- The characters after the margin. -/
def content (l : Line) : List Char :=
  l.text.drop l.margin

/-- Whether there is nothing after the margin. -/
def isEmpty (l : Line) : Bool :=
  l.content.isEmpty

/-- A line of a source text. -/
def ofText (text : List Char) (ended : Bool) : Line :=
  let passed := passSpaces 0 0 text
  ⟨text, passed.1, passed.2, 0, ended⟩

/-- The characters behind an indentation of a given width. A tab that reaches across
the width leaves spaces. -/
def cutFrom (base margin width : Nat) (index column : Nat) : List Char -> List Char
  | [] => List.replicate (column - width) ' '
  | c :: rest =>
      if width ≤ column then
        List.replicate (column - width) ' ' ++ c :: rest
      else if isSpace c then
        cutFrom base margin width (index + 1) (columnAfter c base column) rest
      else if index < margin then
        cutFrom base margin width (index + 1) (column + 1) rest
      else
        c :: rest

/-- The characters of a line behind an indentation of a given width. -/
def cut (l : Line) (width : Nat) : List Char :=
  cutFrom l.base l.margin width 0 0 l.text

end Line

/-- The lines of a source text. Spaces and tabs after the last line end are no line. -/
def lines (source : List Char) : List Line :=
  let rec ofPieces : List (List Char) -> List Line
    | [] => []
    | [last] => if last.all isSpace then [] else [Line.ofText last false]
    | piece :: rest => Line.ofText piece true :: ofPieces rest
  ofPieces (Text.splitOn '\n' source)

/-- The text of several lines behind an indentation, with the line ends between them. -/
def cutLines (width : Nat) (ls : List Line) : List Char :=
  Text.joinWith ['\n'] (ls.map (·.cut width))

/-- The same with the line end after the last line, if it has one. -/
def cutEnded (width : Nat) (ls : List Line) : List Char :=
  ls.flatMap fun l => l.cut width ++ if l.ended then ['\n'] else []

end Prose
end Folio
