import Folio.Fit.Scale
import Folio.Value

/-!
# Measurements of the page

The page reports the widths of its blocks as a list of objects. What is no such object
is passed over, and so is an object with a missing or meaningless width. A number that
is too large to hold spoils the whole report.
-/

namespace Folio
namespace Fit

open Number

variable {α : Type} [Scalar α]

/-- The widths of one block, in pixels. -/
structure Measurement (α : Type) where
  index : Int
  natural : α
  container : α
  deriving DecidableEq, Repr

/-- A named value, converted. -/
def convert {β : Type} (f : Value α -> Except ConversionError β) (name : String)
    (fields : List (List Char × Value α)) : Except ConversionError β :=
  match Value.field? name.toList fields with
  | some v => f v
  | none => .error .malformed

/-- The measurement that an object holds. -/
def ofFields (fields : List (List Char × Value α)) : Except ConversionError (Measurement α) := do
  let index <- convert Value.toInt "index" fields
  let natural <- convert Value.toNumber "natural" fields
  let container <- convert Value.toNumber "container" fields
  pure ⟨index, natural, container⟩

/-- The measurements in the items of a report. -/
def ofItems : List (Value α) -> Except ConversionError (List (Measurement α))
  | [] => .ok []
  | .object fields :: rest =>
      match ofFields fields with
      | .ok m => (ofItems rest).map (m :: ·)
      | .error .tooLarge => .error .tooLarge
      | .error _ => ofItems rest
  | _ :: rest => ofItems rest

/-- The measurements in a report. What is no list reports nothing. -/
def measurements : Value α -> Except ConversionError (List (Measurement α))
  | .list items => ofItems items
  | _ => .ok []

end Fit
end Folio
