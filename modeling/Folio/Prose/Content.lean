import Folio.Prose.Delimiter
import Folio.Prose.Piece

/-!
# Reading the text of a block

The text of a block is read piece by piece. Plain text is gathered until something else
comes; delimiters are kept as they are until the end, where emphasis is settled. The text
of a link is read by itself, so emphasis does not reach across its ends.
-/

namespace Folio
namespace Prose

open Text

/-- What was read of a text. -/
structure Progress where
  /-- Plain text that may go on, in reverse. -/
  pending : List Char
  /-- The items before it, the last first. -/
  items : List Item
  /-- How many anchors are open. -/
  anchors : Int
  memo : Memo

namespace Progress

/-- End the plain text. -/
def flush (p : Progress) : Progress :=
  if p.pending.isEmpty then p
  else { p with pending := [], items := .part (.text p.pending.reverse) :: p.items }

/-- Add parts. -/
def push (p : Progress) (parts : List Inline) : Progress :=
  let p := p.flush
  { p with items := (parts.map Item.part).reverse ++ p.items }

/-- Add plain text. -/
def write (p : Progress) (s : List Char) : Progress :=
  { p with pending := s.reverse ++ p.pending }

/-- End a line. Two spaces before it make the break hard, and spaces before it are
dropped either way. -/
def breakLine (p : Progress) : Progress :=
  match p.pending with
  | ' ' :: ' ' :: rest =>
      { p with pending := rest.dropWhile (· = ' ') }.push [.hardBreak]
  | ' ' :: rest => { p with pending := rest }.push [.softBreak]
  | _ => p.push [.softBreak]

/-- Add markup, which may open or close an anchor. -/
def pushMarkup (p : Progress) (s : List Char) : Progress :=
  let p := p.push [.markup s]
  let change : Int :=
    (if Html.opensAnchor s then 1 else 0) - (if Html.closesAnchor s then 1 else 0)
  { p with anchors := p.anchors + change }

/-- Add a run of delimiters. -/
def pushRun (p : Progress) (items : List Item) : Progress :=
  let p := p.flush
  { p with items := items.reverse ++ p.items }

/-- Add a link around what was read of its text, which starts from the state before the
link. -/
def pushLink (p : Progress) (target : Link.Target) (inner : Progress) : Progress :=
  let parts := .anchor target :: settle inner.items.reverse ++ [.endAnchor]
  { p.push parts with anchors := inner.anchors - 1, memo := inner.memo }

end Progress

/-- A run of delimiters with the number of its characters. A single tilde is text. -/
def run? (c : Cursor) : Option (List Item × Nat) :=
  match c.rest with
  | mark :: _ =>
      let count := (c.rest.takeWhile (· = mark)).length
      if mark = '*' || mark = '_' || (mark = '~' && 2 ≤ count) then
        some (runItems mark count c.last ((c.rest.drop count).head?.getD ' '), count)
      else
        none
  | [] => none

/-- Add the piece that stands at a place. The text of a link is read with `inside`, and
`describe` gives the plain text of a description. -/
def addPiece (describe : List Char -> List Char) (inside : Cursor -> Progress -> Progress)
    (c : Cursor) (p : Progress) (piece : Piece) : Progress :=
  match piece with
  | .text s => p.write s
  | .lineEnd => p.breakLine
  | .literal s => p.push [.literal s]
  | .hardBreak => p.push [.hardBreak]
  | .code s => p.push [.code s]
  | .markup s => p.pushMarkup s
  | .address href shown => p.push [.anchor ⟨href, []⟩, .text shown, .endAnchor]
  | .bare size href shown =>
      { p with pending := p.pending.drop size }.push [.anchor ⟨href, []⟩, .text shown, .endAnchor]
  | .link target n =>
      let flushed := p.flush
      let start : Progress := { flushed with items := [], anchors := p.anchors + 1 }
      flushed.pushLink target (inside ((c.advance 1).only n) start)
  | .image target n => p.push [.image target (describe ((c.rest.drop 2).take n))]

/-- Read a part of a text to its end. The first number bounds the pieces; `depth` says how
deep brackets may nest. -/
def readPieces (describe : List Char -> List Char) (inside : Cursor -> Progress -> Progress)
    (definitions : Link.Definitions) (depth : Nat) : Nat -> Cursor -> Progress -> Progress
  | 0, _, p => p.flush
  | fuel + 1, c, p =>
      match c.rest with
      | [] => p.flush
      | ch :: _ =>
          match run? c with
          | some (items, n) =>
              readPieces describe inside definitions depth fuel (c.advance n) (p.pushRun items)
          | none =>
              let env : Surroundings := ⟨definitions, p.pending, p.anchors⟩
              let found := piece? (skipToken env depth) env c p.memo
              let p := { p with memo := found.2 }
              match found.1 with
              | some (piece, n) =>
                  readPieces describe inside definitions depth fuel (c.advance n)
                    (addPiece describe inside c p piece)
              | none =>
                  readPieces describe inside definitions depth fuel (c.advance 1) (p.write [ch])

/-- Read a part of a text within links; the number says how many more links may open
around it. Where none may, the text is plain. -/
def readWithLinks (describe : List Char -> List Char) (definitions : Link.Definitions) :
    Nat -> Cursor -> Progress -> Progress
  | 0, c, p => (p.write c.rest).flush
  | depth + 1, c, p =>
      readPieces describe (readWithLinks describe definitions depth) definitions (depth + 1)
        (c.rest.length + 1) c p

/-- How deep links and brackets may nest. -/
def linkDepth : Nat := 20

/-- The inline parts of a text. The number bounds how deep descriptions of images nest;
inside a description, the images that it holds are described without literal text. -/
def partsWithin (definitions : Link.Definitions) (inDescription : Bool) :
    Nat -> List Char -> List Inline
  | 0, s => [.text s]
  | fuel + 1, s =>
      let describe (inner : List Char) : List Char :=
        Inline.plainText (!inDescription) (partsWithin definitions true fuel inner)
      let p := readWithLinks describe definitions linkDepth (Cursor.ofText s) ⟨[], [], 0, []⟩
      settle p.items.reverse

/-- The inline parts of a text. -/
def parts (definitions : Link.Definitions) (s : List Char) : List Inline :=
  partsWithin definitions false (s.length + 1) s

end Prose
end Folio
