import Folio.Number.Exact

/-!
# Decimal text

Numbers are written in decimal in three ways: with a given count of places, with a
given count of significant digits, and with the fewest digits that read back as the
same machine number. `Style` says how chosen digits are laid out.
-/

namespace Folio
namespace Number

/-- A positive number as `digits * 10 ^ exponent`. -/
structure Decimal where
  digits : Nat
  exponent : Int
  deriving DecidableEq, Repr

/-- How chosen digits are laid out. -/
structure Style where
  /-- Numbers of this order and above are written with an exponent. -/
  scientificFrom : Int
  /-- Whether a whole number written out keeps a point and a zero. -/
  keepsPoint : Bool

/-- The decimal digits of a natural number. -/
def digitsOf (n : Nat) : List Char :=
  Nat.toDigits 10 n

/-- An integer in decimal. -/
def intText (i : Int) : List Char :=
  if i < 0 then '-' :: digitsOf i.natAbs else digitsOf i.natAbs

/-- Zeros on the left up to the given width. -/
def padLeft (width : Nat) (ds : List Char) : List Char :=
  List.replicate (width - ds.length) '0' ++ ds

/-- The order of magnitude: the power of ten of the first digit. -/
def Decimal.order (d : Decimal) : Int :=
  d.exponent + (digitsOf d.digits).length - 1

/-- Drop zeros at the end of a run of digits. -/
def dropZeros (ds : List Char) : List Char :=
  (ds.reverse.dropWhile (· = '0')).reverse

/-- The exponent of ten, with its sign and at least two digits. -/
def exponentText (e : Int) : List Char :=
  (if e < 0 then ['e', '-'] else ['e', '+']) ++ padLeft 2 (digitsOf e.natAbs)

/-- Lay out the digits of a positive number. Orders from -4 up to the style's limit
are written out; other numbers have one digit before the point and an exponent. -/
def Style.layout (style : Style) (d : Decimal) : List Char :=
  let ds := dropZeros (digitsOf d.digits)
  let order := d.order
  if order < -4 || style.scientificFrom ≤ order then
    match ds with
    | [] => ['0']
    | [a] => a :: exponentText order
    | a :: rest => a :: '.' :: rest ++ exponentText order
  else if order < 0 then
    '0' :: '.' :: List.replicate (-order - 1).toNat '0' ++ ds
  else
    let whole := order.toNat + 1
    let left := ds.take whole
    let right := ds.drop whole
    let left := left ++ List.replicate (whole - left.length) '0'
    if right.isEmpty then
      if style.keepsPoint then left ++ ['.', '0'] else left
    else
      left ++ '.' :: right

/-- The number zero in a style. -/
def Style.zero (style : Style) : List Char :=
  if style.keepsPoint then ['0', '.', '0'] else ['0']

/-- The greatest `e` with `10 ^ e ≤ num / den`, for positive numbers. -/
def orderOf (num den : Nat) : Int :=
  let guess : Int := (digitsOf num).length - (digitsOf den).length
  let fits (e : Int) : Bool :=
    if e < 0 then den ≤ num * Nat.pow 10 (-e).toNat else den * Nat.pow 10 e.toNat ≤ num
  if fits guess then guess else guess - 1

/-- The two parts of `num / den * 10 ^ -e`. -/
def scaleBy (num den : Nat) (e : Int) : Nat × Nat :=
  if e < 0 then (num * Nat.pow 10 (-e).toNat, den) else (num, den * Nat.pow 10 e.toNat)

/-- A positive ratio rounded to `count` significant digits. -/
def significant (count num den : Nat) : Decimal :=
  let e := orderOf num den - (count - 1 : Nat)
  let (n, d) := scaleBy num den e
  ⟨roundDiv n d, e⟩

/-- A ratio with a fixed count of places, rounded on its exact value. -/
def fixedText (places num den : Nat) : List Char :=
  let ds := padLeft (places + 1) (digitsOf (roundDiv (num * Nat.pow 10 places) den))
  let whole := ds.take (ds.length - places)
  if places = 0 then whole else whole ++ '.' :: ds.drop (ds.length - places)

/-- A minus sign where one is due. -/
def withSign (negative : Bool) (s : List Char) : List Char :=
  if negative then '-' :: s else s

/-- Numbers in running text: six significant digits, and no point after a whole
number. -/
def plainStyle : Style where
  scientificFrom := 6
  keepsPoint := false

/-- A value with at most six significant digits. -/
def Exact.plain : Exact -> List Char
  | .nan => "nan".toList
  | .infinite negative => withSign negative "inf".toList
  | .ratio negative num den =>
      withSign negative
        (if num = 0 then plainStyle.zero else plainStyle.layout (significant 6 num den))

/-- A value with a fixed count of places. -/
def Exact.fixed (places : Nat) : Exact -> List Char
  | .nan => "nan".toList
  | .infinite negative => withSign negative "inf".toList
  | .ratio negative num den => withSign negative (fixedText places num den)

end Number
end Folio
