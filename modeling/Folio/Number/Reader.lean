import Folio.Number.Scalar
import Folio.Text.Blank
import Folio.Text.Digit

/-!
# Reading numbers

Numbers in text may have blanks around them, a sign, single underscores between
digits, and digits of any script. A whole number has digits only; other numbers may
have a point, an exponent, or be one of the words for infinity and no number.
-/

namespace Folio
namespace Number

open Text

/-- The longest run of digits that is read as a whole number. -/
def digitLimit : Nat := 4300

/-- Blanks that may stand around a number; separators of information may not. -/
def isPadding (c : Char) : Bool :=
  isBlank c && !(Nat.ble 0x1C c.toNat && Nat.ble c.toNat 0x1F)

/-- Drop the padding around a number. -/
def trimPadding (s : List Char) : List Char :=
  dropRightWhile isPadding (s.dropWhile isPadding)

/-- Read digits with single underscores between them, and give back the value, the
count of digits and what follows. A run that does not start with a digit is empty. -/
def readDigits (value count : Nat) : List Char -> Nat × Nat × List Char
  | [] => (value, count, [])
  | '_' :: c :: rest =>
      match digitValue? c with
      | some d =>
          if count = 0 then (value, count, '_' :: c :: rest)
          else readDigits (value * 10 + d) (count + 1) rest
      | none => (value, count, '_' :: c :: rest)
  | c :: rest =>
      match digitValue? c with
      | some d => readDigits (value * 10 + d) (count + 1) rest
      | none => (value, count, c :: rest)

/-- Split a sign off. -/
def readSign : List Char -> Bool × List Char
  | '-' :: rest => (true, rest)
  | '+' :: rest => (false, rest)
  | s => (false, s)

/-- A text as a whole number. -/
def readInt? (s : List Char) : Option Int :=
  let (negative, s) := readSign (trimPadding s)
  match readDigits 0 0 s with
  | (value, count, []) =>
      if count = 0 || digitLimit < count then none else some (signed negative value)
  | _ => none

/-- The exponent at the end of a number: none written, one written, or a fault. -/
def readExponent? : List Char -> Option Int
  | [] => some 0
  | c :: rest =>
      if c = 'e' || c = 'E' then
        let (negative, s) := readSign rest
        match readDigits 0 0 s with
        | (value, count, []) => if count = 0 then none else some (signed negative value)
        | _ => none
      else
        none

/-- The decimal a text without sign names. -/
def readDecimal? (s : List Char) : Option Decimal :=
  let (whole, wholeCount, afterWhole) := readDigits 0 0 s
  match afterWhole with
  | '.' :: afterPoint =>
      let (fraction, fractionCount, tail) := readDigits 0 0 afterPoint
      if wholeCount = 0 && fractionCount = 0 then
        none
      else
        (readExponent? tail).map fun e =>
          ⟨whole * Nat.pow 10 fractionCount + fraction, e - fractionCount⟩
  | _ =>
      if wholeCount = 0 then none
      else (readExponent? afterWhole).map fun e => ⟨whole, e⟩

/-- Whether a text is the given word, in letters of either case. -/
def isWordFor (word s : List Char) : Bool :=
  s.map Char.toLower == word

/-- A text as a number. -/
def readNumber? {α : Type} [Scalar α] (s : List Char) : Option α :=
  let (negative, s) := readSign (trimPadding s)
  if isWordFor "inf".toList s || isWordFor "infinity".toList s then
    some (Scalar.infinity negative)
  else if isWordFor "nan".toList s then
    some Scalar.nan
  else
    (readDecimal? s).map (Scalar.ofDecimal negative)

end Number
end Folio
