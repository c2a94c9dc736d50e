import Folio.Link.Definition
import Folio.Prose.Table

/-!
# The structure of a text

Lines are read into blocks. At each line the kinds of blocks are tried in a fixed order,
and a paragraph is what remains; it runs on until a blank line, or a line that opens a
block of a kind that ends paragraphs. Quotes and items are read again from their own
lines, in a frame of their own. Groups nest up to a fixed depth; deeper text is dropped.
-/

namespace Folio
namespace Prose

open Text

/-! ## What ends a block -/

/-- Whether a line ends a quote or a table that would otherwise run on. -/
def endsLazy (f : Frame) (ls : List Line) : Bool :=
  match ls with
  | [] => false
  | l :: _ =>
      (fence? f l).isSome || opensQuote f l || isRule f l || (opensList? f false l).isSome ||
        ((markup? f l).any (·.endsParagraph)) || (heading? f l).isSome

/-- Whether a line ends a paragraph. What would be a list does so only under conditions
if the paragraph is no definition. -/
def endsParagraph (f : Frame) (strict : Bool) (ls : List Line) : Bool :=
  match ls with
  | [] => false
  | l :: _ =>
      (table? f ls).isSome || (fence? f l).isSome || opensQuote f l || isRule f l ||
        (opensList? f strict l).isSome || ((markup? f l).any (·.endsParagraph)) ||
        (heading? f l).isSome

/-- Whether a line ends a list between two of its items. -/
def endsList (f : Frame) (l : Line) : Bool :=
  (fence? f l).isSome || opensQuote f l || isRule f l

/-- The lines that continue a paragraph. -/
def continuation (f : Frame) (strict : Bool) : List Line -> List Line
  | [] => []
  | l :: rest =>
      if l.isEmpty then
        []
      else if f.isCode l || l.indent < 0 || !endsParagraph f strict (l :: rest) then
        l :: continuation f strict rest
      else
        []

/-! ## Single blocks -/

/-- A block with the lines after it. -/
abbrev Taken := List Block × List Line

/-- How many lines belong to a block of code, blank lines at its end not counted. -/
def codeLength (f : Frame) (passed : Nat) (taken : Nat) : List Line -> Nat
  | [] => taken
  | l :: rest =>
      if l.isEmpty then codeLength f (passed + 1) taken rest
      else if f.isCode l then codeLength f (passed + 1) (passed + 1) rest
      else taken

/-- A block of code. -/
def takeCode? (f : Frame) (ls : List Line) : Option Taken :=
  match ls with
  | l :: rest =>
      if f.isCode l then
        let n := codeLength f 1 1 rest
        some ([.code (cutLines (f.width + 4) (ls.take n) ++ ['\n'])], ls.drop n)
      else
        none
  | [] => none

/-- The lines inside a fence, and those after it. -/
def fenceBody (f : Frame) (fence : Fence) : List Line -> List Line × List Line
  | [] => ([], [])
  | l :: rest =>
      if (!l.isEmpty && f.isLeft l) || (l.isEmpty && !l.ended) then
        ([], l :: rest)
      else if fence.isClosedBy f l then
        ([], rest)
      else
        let others := fenceBody f fence rest
        (l :: others.1, others.2)

/-- A fence. -/
def takeFence? (f : Frame) (ls : List Line) : Option Taken :=
  match ls with
  | l :: rest =>
      match fence? f l with
      | some fence =>
          let body := fenceBody f fence rest
          some ([.fence fence.info (cutEnded l.indent.toNat body.1)], body.2)
      | none => none
  | [] => none

/-- A rule. -/
def takeRule? (f : Frame) (ls : List Line) : Option Taken :=
  match ls with
  | l :: rest => if isRule f l then some ([.rule], rest) else none
  | [] => none

/-- A definition of a link. -/
def takeDefinition? (f : Frame) (ls : List Line) : Option Taken :=
  match ls with
  | l :: rest =>
      if f.isCode l || l.content.head? ≠ some '[' then
        none
      else
        let text := (l :: continuation f false rest).flatMap fun l =>
          l.content ++ if l.ended then ['\n'] else []
        match Link.definition? text with
        | some (d, after) =>
            some ([.definition d.label d.target], ls.drop (Link.linesBefore text after))
        | none => none
  | [] => none

/-- The lines of some markup up to the one that closes it, and those after it. Where it may
hold blank lines, they need not lie in the frame. -/
def markupBody (f : Frame) (m : Markup) : List Line -> List Line × List Line
  | [] => ([], [])
  | l :: rest =>
      if f.isLeft l && !(l.isEmpty && m.holdsBlankLines) then
        ([], l :: rest)
      else if m.isClosedBy l.content then
        if l.isEmpty then ([], l :: rest) else ([l], rest)
      else
        let others := markupBody f m rest
        (l :: others.1, others.2)

/-- Markup that is passed on. -/
def takeMarkup? (f : Frame) (ls : List Line) : Option Taken :=
  match ls with
  | l :: rest =>
      match markup? f l with
      | some m =>
          let body := if m.isClosedBy l.content then ([], rest) else markupBody f m rest
          some ([.markup (cutEnded f.width (l :: body.1))], body.2)
      | none => none
  | [] => none

/-- A heading with hash marks. -/
def takeHeading? (f : Frame) (ls : List Line) : Option Taken :=
  match ls with
  | l :: rest => (heading? f l).map fun h => ([.heading h.1 h.2], rest)
  | [] => none

/-- The lines up to one that underlines a heading, its level, and the lines after it. -/
def underlined? (f : Frame) : List Line -> Option (List Line × Nat × List Line)
  | [] => none
  | l :: rest =>
      if l.isEmpty then
        none
      else
        match (if f.isCode l || f.isLeft l then none else underline? l) with
        | some level => some ([], level, rest)
        | none =>
            if f.isCode l || l.indent < 0 || !endsParagraph f true (l :: rest) then
              (underlined? f rest).map fun r => (l :: r.1, r.2)
            else
              none

/-- A heading with a line below it. -/
def takeUnderlined? (f : Frame) (ls : List Line) : Option Taken :=
  match ls with
  | l :: rest =>
      if f.isCode l then
        none
      else
        (underlined? f rest).map fun r =>
          ([.heading r.2.1 (trimProse (cutLines f.width (l :: r.1)))], r.2.2)
  | [] => none

/-- A paragraph. -/
def takeParagraph (f : Frame) (ls : List Line) : Taken :=
  match ls with
  | l :: rest =>
      let more := continuation f true rest
      ([.paragraph false (trimProse (cutLines f.width (l :: more)))], rest.drop more.length)
  | [] => ([], [])

/-- A table. -/
def takeTable? (f : Frame) (ls : List Line) : Option Taken :=
  (table? f ls).map fun t =>
    let rows := tableRows (endsLazy f) f t.1 0 (ls.drop 2)
    (tableOf t.1 t.2 rows.1, rows.2)

/-! ## Quotes -/

/-- A line behind the angle of a quote. One space after the angle belongs to it; a tab
does too, but only with one column. -/
def unquoted (l : Line) (rest : List Char) : Line :=
  let column := l.indent.toNat + 1
  let first := rest.head?
  let fills := first = some '\t' && (l.base + column) % 4 = 3
  let text := if first = some ' ' || fills then rest.drop 1 else rest
  let start := if first = some ' ' || fills then column + 1 else column
  let shift := if first = some '\t' && !fills then 1 else 0
  let passed := passSpaces (l.base + shift) start text
  let spaced := first = some ' ' || first = some '\t'
  ⟨text, passed.1, passed.2 - start, column + if spaced then 1 else 0, l.ended⟩

/-- The lines of a quote, behind its angle. Lines without an angle may go on with a
paragraph, unless the line before was empty. -/
def quoteLines (f : Frame) (afterEmpty : Bool) : List Line -> List Line
  | [] => []
  | l :: rest =>
      match l.content with
      | [] => []
      | c :: after =>
          if c = '>' && !f.isLeft l then
            let inner := unquoted l after
            inner :: quoteLines f inner.isEmpty rest
          else if afterEmpty || endsLazy f (l :: rest) then
            []
          else
            { l with indent := -1 } :: quoteLines f afterEmpty rest

/-- A reading of lines in a frame: the blocks, the lines that are left, and whether there
was no blank line between the blocks. -/
structure Reading where
  blocks : List Block
  rest : List Line
  tight : Bool

/-- A quote. -/
def takeQuote? (inner : Frame -> List Line -> Reading) (f : Frame) (ls : List Line) :
    Option Taken :=
  match ls with
  | l :: _ =>
      if opensQuote f l then
        let quoted := quoteLines f false ls
        let r := inner ⟨0, f.outer⟩ quoted
        some (Block.quoteOf r.blocks, ls.drop (quoted.length - r.rest.length))
      else
        none
  | [] => none

/-! ## Lists -/

/-- The first line of an item behind its mark, and the column of its content. -/
def itemLine (l : Line) (m : Marker) : Line × Nat :=
  let start := l.indent.toNat + m.length
  let after := l.content.drop m.length
  let passed := passSpaces l.base start after
  let isBare := passed.1 = after.length
  let gap := if isBare || 4 < passed.2 - start then 1 else passed.2 - start
  ({ l with margin := l.margin + m.length + passed.1, indent := passed.2 }, start + gap)

/-- An item that starts with a line. An empty item followed by an empty line holds
nothing. -/
def readItem (inner : Frame -> List Line -> Reading) (f : Frame) (m : Marker) (l : Line)
    (rest : List Line) : Reading :=
  let item := itemLine l m
  let nextIsEmpty :=
    match rest with
    | [] => true
    | next :: _ => next.isEmpty
  if item.1.isEmpty && nextIsEmpty then
    ⟨[], rest.drop 1, true⟩
  else
    inner ⟨item.2, some f.width⟩ (item.1 :: rest)

/-- Whether the lines between `ls` and what is left of them end with an empty one, and
are more than one. -/
def endsEmpty (ls rest : List Line) : Bool :=
  let used := ls.length - rest.length
  1 < used && ((ls.drop (used - 1)).head?.map (·.isEmpty)).getD false

/-- The mark of the next item of a list. -/
def nextMarker? (f : Frame) (m : Marker) (l : Line) : Option Marker :=
  if f.isLeft l || f.isCode l || endsList f l then
    none
  else
    match marker? l with
    | some next =>
        if next.kind = m.kind && next.number.isSome = m.number.isSome then some next else none
    | none => none

/-- The items of a list from a mark on, whether no blank line stands between their
blocks, and the lines after them. The number bounds the items. -/
def readItems (inner : Frame -> List Line -> Reading) (f : Frame) (afterEmpty : Bool) :
    Nat -> Marker -> List Line -> List (List Block) × Bool × List Line
  | fuel + 1, m, l :: rest =>
      let r := readItem inner f m l rest
      let item := Block.itemOf r.blocks
      let tight := r.tight && !afterEmpty
      match r.rest with
      | [] => ([item], tight, [])
      | next :: _ =>
          match nextMarker? f m next with
          | none => ([item], tight, r.rest)
          | some m' =>
              let others := readItems inner f (endsEmpty (l :: rest) r.rest) fuel m' r.rest
              (item :: others.1, tight && others.2.1, others.2.2)
  | _, _, ls => ([], true, ls)

/-- The first number of a list, if it is a numbered one. -/
def takeList? (inner : Frame -> List Line -> Reading) (f : Frame) (ls : List Line) :
    Option Taken :=
  match ls with
  | l :: _ =>
      match opensList? f false l with
      | some m =>
          let r := readItems inner f false ls.length m ls
          some (Block.listOf m.number r.2.1 r.1, r.2.2)
      | none => none
  | [] => none

/-! ## All blocks -/

/-- The next block. The line is not empty and lies in the frame. -/
def takeBlock (quote item : Frame -> List Line -> Reading) (f : Frame) (ls : List Line) : Taken :=
  ((takeTable? f ls <|> takeCode? f ls <|> takeFence? f ls <|> takeQuote? quote f ls <|>
    takeRule? f ls <|> takeList? item f ls <|> takeDefinition? f ls <|> takeMarkup? f ls <|>
    takeHeading? f ls <|> takeUnderlined? f ls)).getD (takeParagraph f ls)

/-- Drop the empty lines in front. -/
def skipEmpty (ls : List Line) : List Line :=
  ls.dropWhile (·.isEmpty)

/-- Whether the last line before what is left is empty. -/
def lastIsEmpty (ls rest : List Line) : Bool :=
  ((ls.drop (ls.length - rest.length - 1)).head?.map (·.isEmpty)).getD false

/-- Read the blocks in a frame. The number bounds the blocks; `sawEmpty` tells whether
an empty line came before. -/
def readBlocks (quote item : Frame -> List Line -> Reading) (f : Frame) :
    Nat -> Bool -> Bool -> List Line -> Reading
  | 0, _, tight, ls => ⟨[], ls, tight⟩
  | fuel + 1, sawEmpty, tight, ls =>
      match skipEmpty ls with
      | [] => ⟨[], [], tight⟩
      | l :: rest =>
          if f.isLeft l then
            ⟨[], l :: rest, tight⟩
          else
            let taken := takeBlock quote item f (l :: rest)
            let afterEmpty := sawEmpty || lastIsEmpty (l :: rest) taken.2
            let others :=
              match taken.2 with
              | next :: further =>
                  if next.isEmpty then
                    readBlocks quote item f fuel true (!sawEmpty) further
                  else
                    readBlocks quote item f fuel afterEmpty (!sawEmpty) (next :: further)
              | [] => ⟨[], [], !sawEmpty⟩
            { others with blocks := taken.1 ++ others.blocks }

/-- Read lines where no more groups may open: whatever lies in the frame is dropped. -/
def dropBlocks (f : Frame) (ls : List Line) : Reading :=
  match skipEmpty ls with
  | [] => ⟨[], [], true⟩
  | l :: rest => if f.isLeft l then ⟨[], l :: rest, true⟩ else ⟨[], [], true⟩

/-- Read lines inside groups; the number says how many more may open. A list opens two,
itself and its item. -/
def readWithin : Nat -> Frame -> List Line -> Reading
  | 0, f, ls => dropBlocks f ls
  | 1, f, ls => readBlocks dropBlocks dropBlocks f (ls.length + 1) false true ls
  | n + 2, f, ls =>
      readBlocks (readWithin (n + 1)) (readWithin n) f (ls.length + 1) false true ls

/-- How many groups may be open at once. -/
def depthLimit : Nat := 20

/-- The blocks of a text. -/
def blocks (source : List Char) : List Block :=
  (readWithin depthLimit ⟨0, none⟩ (lines source)).blocks

end Prose
end Folio
