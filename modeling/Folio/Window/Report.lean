import Folio.Document.Fault
import Folio.Viewport.Position

/-!
# Reports of the page

The page reports its height, where it starts, and where its headings are. What makes no
sense in a report is passed over, one value at a time. A number that is too large to
hold, an object in the place of a heading, and headings that are no sequence are faults.
-/

namespace Folio
namespace Window

open Number Viewport

/-- Why a step of the window ends early. -/
inductive Fault where
  | conversion (e : ConversionError)
  /-- The document cannot be rendered. -/
  | document (f : Document.Fault)
  /-- An object stands where a pair was wanted. -/
  | notPair
  /-- There is no page to ask. -/
  | noPage
  deriving DecidableEq, Repr

variable {α : Type} [Scalar α]

/-- The number in a value; nothing in the place of one that makes no sense. -/
def sensible? (v : Value α) : Except Fault (Option α) :=
  if v.truthy then
    match v.toNumber with
    | .ok x => .ok (some x)
    | .error .tooLarge => .error (.conversion .tooLarge)
    | .error _ => .ok none
  else
    .ok none

/-- The height of the page; a page without height has none. -/
def pageHeight (report : List (List Char × Value α)) : Except Fault (Option α) :=
  (sensible? ((Value.field? "pageHeight".toList report).getD .null)).map
    (·.filter fun x => !Scalar.same x Scalar.zero)

/-- Where the page starts. -/
def pageTop (report : List (List Char × Value α)) : Except Fault α :=
  (sensible? ((Value.field? "pageTop".toList report).getD .null)).map (·.getD Scalar.zero)

/-- The id of a heading, as a text. -/
def headingId : Value α -> List Char
  | .text s => s
  | v => v.shown

/-- A heading with its distance, unless the distance makes no sense. -/
def placed (id : List Char) (distance : Value α) : Except Fault (Option (Value α × α)) :=
  match distance.toNumber with
  | .ok x => .ok (some (.text id, x))
  | .error .tooLarge => .error (.conversion .tooLarge)
  | .error _ => .ok none

/-- The heading in an item. A text is taken for the sequence of its characters. -/
def heading? : Value α -> Except Fault (Option (Value α × α))
  | .list (id :: distance :: _) => placed (headingId id) distance
  | .text (id :: distance :: _) => placed [id] (.text [distance])
  | .object _ => .error .notPair
  | _ => .ok none

/-- The headings of a page, without those that make no sense. -/
def headings (report : List (List Char × Value α)) : Except Fault (Positions α) :=
  let v := (Value.field? "headings".toList report).getD .null
  if v.truthy then
    match v.items? with
    | some items => (items.mapM heading?).map (·.filterMap id)
    | none => .error (.conversion .wrongKind)
  else
    .ok []

end Window
end Folio
