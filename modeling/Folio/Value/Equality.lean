import Folio.Amount

/-!
# Equality of values

Two values are equal if they hold the same, whatever the form of the numbers in them and
whatever the order of the names in their objects. A value that is no number differs from
itself.
-/

namespace Folio
namespace Value

open Number

variable {α : Type} [Scalar α]

/-- Whether two values are equal as numbers. -/
def sameNumber (v w : Value α) : Bool :=
  match Amount.ofValue? v, Amount.ofValue? w with
  | some a, some b => a.same b
  | _, _ => false

mutual

/-- Whether two values are equal. -/
def same : Value α -> Value α -> Bool
  | .null, .null => true
  | .text s, .text t => s == t
  | .list vs, .list ws => sameItems vs ws
  | .object fs, .object gs => fs.length == gs.length && sameFields fs gs
  | v, w => sameNumber v w

/-- Whether two lists hold equal values. -/
def sameItems : List (Value α) -> List (Value α) -> Bool
  | [], [] => true
  | v :: vs, w :: ws => same v w && sameItems vs ws
  | _, _ => false

/-- Whether each of the named values has an equal one of the same name. -/
def sameFields : List (List Char × Value α) -> List (List Char × Value α) -> Bool
  | [], _ => true
  | (name, v) :: fs, gs =>
      (match field? name gs with
        | some w => same v w
        | none => false) && sameFields fs gs

end

/-- Texts are equal as values exactly if they are equal. -/
theorem same_text_iff (s t : List Char) : same (.text s : Value α) (.text t) = true ↔ s = t := by
  simp [same]

@[simp] theorem same_null : same (.null : Value α) .null = true := by
  simp [same]

end Value
end Folio
