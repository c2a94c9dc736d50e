import Folio.Prose.Inline
import Folio.Text.Punctuation

/-!
# Delimiters of emphasis

Runs of stars, underscores and tildes may open or close emphasis, which depends on the
characters beside them. A closing delimiter belongs to the nearest opening one of its
kind that is still free, and what lies between the two is settled by then. Two pairs
that lie directly inside each other are strong emphasis.
-/

namespace Folio
namespace Prose

open Text

/-- A delimiter. -/
structure Delimiter where
  mark : Char
  /-- How it is written where it means nothing. -/
  text : List Char
  /-- The length of its run, where lengths matter. -/
  length : Nat
  opens : Bool
  closes : Bool
  deriving DecidableEq, Repr

/-- A part of a text whose emphasis is not settled. -/
inductive Item where
  | part (i : Inline)
  | mark (d : Delimiter)
  deriving DecidableEq, Repr

/-! ## What a run can do -/

/-- Whether a character counts as a blank beside a delimiter. -/
def isGapBeside (c : Char) : Bool :=
  (Nat.ble 0x2000 c.toNat && Nat.ble c.toNat 0x200A) || (Nat.ble 9 c.toNat && Nat.ble c.toNat 13) ||
    [0x20, 0xA0, 0x1680, 0x202F, 0x205F, 0x3000].contains c.toNat

/-- Whether a character counts as punctuation beside a delimiter. -/
def isMarkBeside (c : Char) : Bool :=
  isPunctuation c || isSymbol c

/-- Whether a run can open and close emphasis between two characters. An underscore
within a word can do neither. -/
def flanks (splitsWords : Bool) (before after : Char) : Bool × Bool :=
  let left := !(isGapBeside after || (isMarkBeside after && !(isGapBeside before || isMarkBeside before)))
  let right := !(isGapBeside before || (isMarkBeside before && !(isGapBeside after || isMarkBeside after)))
  if splitsWords then
    (left, right)
  else
    (left && (!right || isMarkBeside before), right && (!left || isMarkBeside after))

/-- The items of a run of marks. Tildes count in pairs, and an odd one is text. -/
def runItems (mark : Char) (count : Nat) (before after : Char) : List Item :=
  let able := flanks (mark ≠ '_') before after
  if mark = '~' then
    (if count % 2 = 1 then [.part (.text ['~'])] else []) ++
      List.replicate (count / 2) (.mark ⟨'~', ['~', '~'], 0, able.1, able.2⟩)
  else
    List.replicate count (.mark ⟨mark, [mark], count, able.1, able.2⟩)

/-! ## Pairs -/

/-- Delimiters that may still be opened, the last first, with their positions. -/
abbrev Openers := List (Nat × Delimiter)

/-- Whether the lengths of two runs forbid a pair: with a run that can do both, the sum
must not be a multiple of three unless both lengths are. -/
def clashes (opener closer : Delimiter) : Bool :=
  (opener.closes || closer.opens) && (opener.length + closer.length) % 3 = 0 &&
    (opener.length % 3 ≠ 0 || closer.length % 3 ≠ 0)

/-- The opener for a closing delimiter, and the openers before it. -/
def opener? (closer : Delimiter) : Openers -> Option (Nat × Openers)
  | [] => none
  | (i, d) :: rest =>
      if d.mark = closer.mark && !clashes d closer then some (i, rest) else opener? closer rest

/-- A pair of positions. -/
abbrev Pair := Nat × Nat

/-- Find the pairs of delimiters. A delimiter is not paired with one of its own run,
so the openers of the current run are kept apart. -/
def pairsFrom (openers current : Openers) (mark : Option Char) (position : Nat) :
    List Item -> List Pair
  | [] => []
  | .part _ :: rest => pairsFrom (current ++ openers) [] none (position + 1) rest
  | .mark d :: rest =>
      let openers := if mark = some d.mark then openers else current ++ openers
      let current := if mark = some d.mark then current else []
      match (if d.closes then opener? d openers else none) with
      | some (i, before) =>
          (i, position) :: pairsFrom before [] (some d.mark) (position + 1) rest
      | none =>
          let current := if d.opens then (position, d) :: current else current
          pairsFrom openers current (some d.mark) (position + 1) rest

/-- The pairs of delimiters among items. -/
def pairs (items : List Item) : List Pair :=
  pairsFrom [] [] none 0 items

/-- The mark at a position. -/
def markAt (items : List Item) (i : Nat) : Option Char :=
  match items[i]? with
  | some (.mark d) => some d.mark
  | _ => none

/-- How many pairs lie directly inside a pair; the number bounds the search. -/
def insideCount (items : List Item) (ps : List Pair) : Nat -> Pair -> Nat
  | 0, _ => 0
  | fuel + 1, (i, j) =>
      let inner : Pair := (i + 1, j - 1)
      if ps.contains inner && markAt items (i + 1) = markAt items i then
        insideCount items ps fuel inner + 1
      else
        0

/-- What a pair means. -/
inductive Role where
  | stress (s : Stress)
  /-- The outer pair of strong emphasis, which shows only in the inner one. -/
  | merged
  deriving DecidableEq, Repr

/-- What a pair of positions means. -/
def role (items : List Item) (ps : List Pair) (p : Pair) : Role :=
  if markAt items p.1 = some '~' then
    .stress .strike
  else if insideCount items ps ps.length p % 2 = 1 then
    .merged
  else
    let hasOuter := 0 < p.1 && ps.contains (p.1 - 1, p.2 + 1) &&
      markAt items (p.1 - 1) = markAt items p.1
    .stress (if hasOuter then .strong else .emphasis)

/-- What stands at a position once the pairs are known. -/
def settleAt (items : List Item) (ps : List Pair) (i : Nat) (item : Item) : Inline :=
  match item with
  | .part p => p
  | .mark d =>
      match ps.find? fun p => p.1 = i || p.2 = i with
      | none => .text d.text
      | some p =>
          match role items ps p with
          | .merged => .text []
          | .stress s => if p.1 = i then .start s else .stop s

/-- Put the odd tilde in front of closing ones behind them. -/
def moveTildes (held : Bool) : List Inline -> List Inline
  | [] => if held then [.text ['~']] else []
  | .stop .strike :: rest => .stop .strike :: moveTildes held rest
  | part :: rest =>
      let lone := part = .text ['~']
      let others := if lone then moveTildes true rest else part :: moveTildes false rest
      if held then .text ['~'] :: others else others

/-- Settle the emphasis of a text. -/
def settle (items : List Item) : List Inline :=
  let ps := pairs items
  let settled := (items.zipIdx).map fun (item, i) => settleAt items ps i item
  Inline.joinTexts (moveTildes false settled)

end Prose
end Folio
