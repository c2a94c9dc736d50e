import Folio.Link.Target

/-!
# Blocks

A text is a sequence of blocks. Quotes, lists, items and the parts of tables hold other
blocks; they are written as a start and a stop with what they hold in between, so that
a document is one flat sequence in the order of its text.
-/

namespace Folio
namespace Prose

/-- How the cells of a column are aligned. -/
inductive Align where
  | plain
  | left
  | center
  | right
  deriving DecidableEq, Repr

/-- What holds other blocks. -/
inductive Group where
  | quote
  /-- A list with bullets. -/
  | bullets (tasks : Bool)
  /-- A numbered list with its first number. -/
  | numbers (first : Nat) (tasks : Bool)
  /-- An item of a list, which may be a task. -/
  | item (task : Bool)
  | table
  | head
  | body
  | row
  deriving DecidableEq, Repr

/-- A block, or the start or stop of a group. -/
inductive Block where
  | start (group : Group)
  | stop (group : Group)
  /-- A paragraph. In a list without blank lines it stands without tags of its own. -/
  | paragraph (tight : Bool) (text : List Char)
  | heading (level : Nat) (text : List Char)
  | cell (header : Bool) (align : Align) (text : List Char)
  | rule
  /-- Code that is set in by four columns. -/
  | code (text : List Char)
  /-- Code between two fences, with what stands behind the first. -/
  | fence (info text : List Char)
  /-- Markup that is passed on as it is. -/
  | markup (text : List Char)
  /-- The definition of a link, which is not shown. -/
  | definition (label : List Char) (target : Link.Target)
  deriving DecidableEq, Repr

namespace Block

/-- The definitions among blocks; the first of a label counts. -/
def definitions (blocks : List Block) : Link.Definitions :=
  blocks.foldl (fun defs b =>
    match b with
    | .definition label target => defs.add label target
    | _ => defs) []

/-- Whether a block is shown. -/
def isShown : Block -> Bool
  | .definition _ _ => false
  | _ => true

/-- Whether a text begins with an empty or a crossed box and a blank. -/
def isTask (text : List Char) : Bool :=
  match text with
  | '[' :: box :: ']' :: c :: _ =>
      (box = ' ' || box = 'x' || box = 'X') &&
        (c = ' ' || c = '\t' || c = '\n' || c = '\r' || c.toNat = 0xB || c.toNat = 0xC)
  | _ => false

/-- Take the tags from the paragraphs that stand directly in an item; `depth` groups
are open around the blocks. -/
def tighten (depth : Nat) : List Block -> List Block
  | [] => []
  | .start g :: rest => .start g :: tighten (depth + 1) rest
  | .stop g :: rest => .stop g :: tighten (depth - 1) rest
  | .paragraph tight text :: rest =>
      .paragraph (tight || depth = 1) text :: tighten depth rest
  | b :: rest => b :: tighten depth rest

/-- Put the blocks of an item between its start and stop. It is a task if its first
block is a paragraph that begins with a box. -/
def itemOf (blocks : List Block) : List Block :=
  let task :=
    match blocks.filter isShown with
    | .paragraph _ text :: _ => isTask text
    | _ => false
  .start (.item task) :: blocks ++ [.stop (.item task)]

/-- Whether an item is a task. -/
def startsTask (item : List Block) : Bool :=
  match item with
  | .start (.item task) :: _ => task
  | _ => false

/-- A list of items. -/
def listOf (first : Option Nat) (tight : Bool) (items : List (List Block)) : List Block :=
  let tasks := items.any startsTask
  let group : Group :=
    match first with
    | none => .bullets tasks
    | some n => .numbers n tasks
  let inner := items.flatten
  .start group :: (if tight then tighten 0 inner else inner) ++ [.stop group]

/-- A quote around blocks. -/
def quoteOf (blocks : List Block) : List Block :=
  .start .quote :: blocks ++ [.stop .quote]

end Block
end Prose
end Folio
