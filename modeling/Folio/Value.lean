import Folio.Number.Reader
import Folio.Text.Quoted

/-!
# Values from outside

Settings, measurements and the answers of the page arrive as values of no fixed
shape. A value is nothing, a truth value, a number, a text, a list or an object.
Reading a number from one accepts truth values and numbers written as text, and
says why it fails.
-/

namespace Folio

open Number

/-- A value of no fixed shape, over a kind of machine number. -/
inductive Value (α : Type) where
  /-- Nothing. -/
  | null
  | bool (b : Bool)
  | int (i : Int)
  | real (x : α)
  | text (s : List Char)
  | list (items : List (Value α))
  /-- Named values in the order they were written. -/
  | object (fields : List (List Char × Value α))
  deriving Inhabited

/-- Why a value has no number of the wanted kind. -/
inductive ConversionError where
  /-- Values of this kind have no number at all. -/
  | wrongKind
  /-- The text, or the value that is no number, names none. -/
  | malformed
  /-- The number is beyond all numbers of the wanted kind. -/
  | tooLarge
  deriving DecidableEq, Repr

namespace Value

variable {α : Type} [Scalar α]

/-- An integer as a machine number. -/
def numberOfInt (i : Int) : Except ConversionError α :=
  if Scalar.holdsInt α i then .ok (Scalar.ofInt i) else .error .tooLarge

/-- A value as a machine number. -/
def toNumber : Value α -> Except ConversionError α
  | .bool b => .ok (if b then Scalar.one else Scalar.zero)
  | .int i => numberOfInt i
  | .real x => .ok x
  | .text s =>
      match readNumber? s with
      | some x => .ok x
      | none => .error .malformed
  | _ => .error .wrongKind

/-- A value as a whole number; fractions are cut off. -/
def toInt : Value α -> Except ConversionError Int
  | .bool b => .ok (if b then 1 else 0)
  | .int i => .ok i
  | .real x =>
      match (Scalar.exact x).truncate with
      | .whole n => .ok n
      | .nan => .error .malformed
      | .infinite => .error .tooLarge
  | .text s =>
      match readInt? s with
      | some i => .ok i
      | none => .error .malformed
  | _ => .error .wrongKind

/-- The text in a value, if it is one. -/
def text? : Value α -> Option (List Char)
  | .text s => some s
  | _ => none

/-- Whether a value counts as true: not nothing, not zero, not empty. -/
def truthy : Value α -> Bool
  | .null => false
  | .bool b => b
  | .int i => i != 0
  | .real x => !Scalar.same x (Scalar.zero : α)
  | .text s => !s.isEmpty
  | .list items => !items.isEmpty
  | .object fields => !fields.isEmpty

/-- The items of a sequence. A text is the sequence of its characters, and an object the
sequence of its names. -/
def items? : Value α -> Option (List (Value α))
  | .list items => some items
  | .text s => some (s.map fun c => .text [c])
  | .object fields => some (fields.map fun f => .text f.1)
  | _ => none

/-- The value of a name: the last one written. -/
def field? (name : List Char) (fields : List (List Char × Value α)) : Option (Value α) :=
  (fields.reverse.find? fun f => f.1 == name).map (·.2)

mutual

/-- A value as messages show it. -/
def shown : Value α -> List Char
  | .null => "None".toList
  | .bool b => if b then "True".toList else "False".toList
  | .int i => intText i
  | .real x => Scalar.text x
  | .text s => Text.quoted s
  | .list items => '[' :: shownItems items ++ [']']
  | .object fields => '\x7b' :: shownFields fields ++ ['\x7d']

/-- Values with commas between them. -/
def shownItems : List (Value α) -> List Char
  | [] => []
  | [v] => shown v
  | v :: rest => shown v ++ ", ".toList ++ shownItems rest

/-- Named values with commas between them. -/
def shownFields : List (List Char × Value α) -> List Char
  | [] => []
  | [(name, v)] => Text.quoted name ++ ": ".toList ++ shown v
  | (name, v) :: rest =>
      Text.quoted name ++ ": ".toList ++ shown v ++ ", ".toList ++ shownFields rest

end

end Value
end Folio
