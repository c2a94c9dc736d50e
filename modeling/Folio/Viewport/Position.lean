import Folio.Value

/-!
# Positions of headings

The places of the headings arrive as a list of pairs of an id and a distance. A list
with an item that is no such pair is kept as it came, and is found to be faulty when
the pane is looked at.
-/

namespace Folio
namespace Viewport

open Number

variable {α : Type} [Scalar α]

/-- The headings of a page with their distances from its top, in pixels of the unscaled
page. A heading is known by a value, which is a text on a real page. -/
abbrev Positions (α : Type) := List (Value α × α)

/-- A distance; a text is none, even one of digits. -/
def distance : Value α -> Except ConversionError α
  | .text _ => .error .wrongKind
  | v => v.toNumber

/-- A pair of an id and a distance. Texts and objects are taken for the pairs of their
characters and names. -/
def position : Value α -> Except ConversionError (Value α × α)
  | .list [id, d] => (distance d).map fun x => (id, x)
  | .list _ => .error .malformed
  | .text s => if s.length = 2 then .error .wrongKind else .error .malformed
  | .object fields => if fields.length = 2 then .error .wrongKind else .error .malformed
  | _ => .error .wrongKind

/-- The positions in a list, or the first fault in it. -/
def positions (items : List (Value α)) : Except ConversionError (Positions α) :=
  items.mapM position

end Viewport
end Folio
