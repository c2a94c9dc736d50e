import Folio.Text.Quoted
import Folio.Number.Scalar

/-!
# Data inside scripts

Data handed to the page is written as JSON in characters of the ASCII range only:
everything else is an escape of one or two units of sixteen bits.
-/

namespace Folio
namespace Json

open Text

/-- An escape of one unit of sixteen bits. -/
def unitEscape (n : Nat) : List Char :=
  '\\' :: 'u' :: hexDigits 4 n

/-- One character of a string. -/
def stringChar (c : Char) : List Char :=
  if c = '"' then ['\\', '"']
  else if c = '\\' then ['\\', '\\']
  else if c = '\n' then ['\\', 'n']
  else if c = '\r' then ['\\', 'r']
  else if c = '\t' then ['\\', 't']
  else if c.toNat = 8 then ['\\', 'b']
  else if c.toNat = 12 then ['\\', 'f']
  else if 32 ≤ c.toNat ∧ c.toNat ≤ 126 then [c]
  else if c.toNat < 0x10000 then unitEscape c.toNat
  else
    let n := c.toNat - 0x10000
    unitEscape (0xD800 + n / 0x400) ++ unitEscape (0xDC00 + n % 0x400)

/-- A string. -/
def string (s : List Char) : List Char :=
  '"' :: s.flatMap stringChar ++ ['"']

/-- Items with a comma and a space between them. -/
def commas : List (List Char) -> List Char
  | [] => []
  | [item] => item
  | item :: rest => item ++ ',' :: ' ' :: commas rest

/-- A list of strings. -/
def strings (items : List (List Char)) : List Char :=
  '[' :: commas (items.map string) ++ [']']

/-- An object whose values are strings. -/
def stringFields (fields : List (List Char × List Char)) : List Char :=
  '\x7b' :: commas (fields.map fun f => string f.1 ++ ':' :: ' ' :: string f.2) ++ ['\x7d']

/-- A string, or `null` for none. -/
def stringOrNull : Option (List Char) -> List Char
  | none => "null".toList
  | some s => string s

/-- A number in full; infinities and no number have their names. -/
def number {α : Type} [Number.Scalar α] (x : α) : List Char :=
  match Number.Scalar.exact x with
  | .nan => "NaN".toList
  | .infinite negative => Number.withSign negative "Infinity".toList
  | .ratio _ _ _ => Number.Scalar.text x

end Json
end Folio
