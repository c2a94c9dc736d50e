import Folio.Number.Shortest

/-!
# Machine numbers

The calculations of the program are stated over any kind of number that has the
four operations, comparisons and an exact value. The program itself runs on
double-precision numbers; the same definitions can be read over exact ratios.

Comparisons give `false` when a number is not comparable, and of two candidates
`maxOf` and `minOf` keep the first unless the second is strictly better.
-/

namespace Folio
namespace Number

/-- A kind of number to calculate with. -/
class Scalar (α : Type) where
  add : α -> α -> α
  sub : α -> α -> α
  mul : α -> α -> α
  div : α -> α -> α
  /-- Strictly less. -/
  lt : α -> α -> Bool
  /-- Less or equal. -/
  le : α -> α -> Bool
  /-- Equal as numbers. -/
  same : α -> α -> Bool
  /-- What the number stands for. -/
  exact : α -> Exact
  /-- The number nearest to a signed decimal. -/
  ofDecimal : Bool -> Decimal -> α
  /-- The number nearest to a ratio with a sign. -/
  ofRatio : Bool -> Nat -> Nat -> α
  /-- Beyond all numbers of a sign. -/
  infinity : Bool -> α
  /-- Not a number. -/
  nan : α
  /-- Whether an integer has a nearest number. -/
  holdsInt : Int -> Bool
  /-- The fewest digits that read back, in full. -/
  text : α -> List Char

namespace Scalar

variable {α : Type} [Scalar α]

/-- The number nearest to an integer. -/
def ofInt (i : Int) : α :=
  ofDecimal (decide (i < 0)) ⟨i.natAbs, 0⟩

/-- The number nearest to `k` hundredths. -/
def hundredths (k : Int) : α :=
  ofDecimal (decide (k < 0)) ⟨k.natAbs, -2⟩

/-- The number nearest to `k` tenths. -/
def tenths (k : Int) : α :=
  ofDecimal (decide (k < 0)) ⟨k.natAbs, -1⟩

/-- Zero. -/
def zero : α := ofInt 0

/-- One. -/
def one : α := ofInt 1

/-- The greater of two numbers; the first unless the second is strictly greater. -/
def maxOf (a b : α) : α :=
  if lt a b then b else a

/-- The smaller of two numbers; the first unless the second is strictly smaller. -/
def minOf (a b : α) : α :=
  if lt b a then b else a

/-- The nearest number of whole hundredths. A value that is no number, or has no
hundredths, stays as it is. -/
def roundHundredths (x : α) : α :=
  match (exact x).roundScaled 100 with
  | .whole k =>
      match exact x with
      | .ratio negative _ _ => ofDecimal negative ⟨k.natAbs, -2⟩
      | _ => x
  | _ => x

end Scalar

/-- The parts of a double-precision number. -/
def floatBinary (x : Float) : Bool × Option (Nat × Nat) :=
  let bits := x.toBits.toNat
  let exponent := bits / Nat.pow 2 52 % 2048
  let fraction := bits % Nat.pow 2 52
  (bits / Nat.pow 2 63 = 1, if exponent = 2047 then none else some (exponent, fraction))

/-- The mantissa and exponent of a finite double-precision number. -/
def binaryOfParts (exponent fraction : Nat) : Binary :=
  if exponent = 0 then
    ⟨fraction, -1074, false⟩
  else
    ⟨fraction + Nat.pow 2 52, (exponent : Int) - 1075, fraction = 0 && exponent ≠ 1⟩

/-- The exact value of a double-precision number. -/
def exactOfFloat (x : Float) : Exact :=
  match floatBinary x with
  | (negative, some (exponent, fraction)) =>
      let (num, den) := (binaryOfParts exponent fraction).ratio
      .ratio negative num den
  | (negative, none) => if x.isNaN then .nan else .infinite negative

/-- A double-precision number in full. -/
def floatText (x : Float) : List Char :=
  match floatBinary x with
  | (negative, some (exponent, fraction)) =>
      let b := binaryOfParts exponent fraction
      withSign negative (if b.mantissa = 0 then fullStyle.zero else fullStyle.layout b.shortest)
  | (negative, none) =>
      if x.isNaN then "nan".toList else withSign negative "inf".toList

/-- The double-precision number nearest to a decimal. Orders far outside the range
are settled before any power of ten is formed. -/
def floatOfDecimal (negative : Bool) (d : Decimal) : Float :=
  let magnitude : Float :=
    if d.digits = 0 then 0.0
    else if 400 < d.order then 1.0 / 0.0
    else if d.order < -400 then 0.0
    else Float.ofScientific d.digits (decide (d.exponent < 0)) d.exponent.natAbs
  if negative then -magnitude else magnitude

/-- The double-precision number nearest to a ratio. The quotient is scaled by a power of two
so that it keeps 53 binary digits, or fewer where the scale would pass that of the
smallest numbers, and rounded once. -/
def floatOfRatio (negative : Bool) (num den : Nat) : Float :=
  let scaled (places : Int) : Nat × Nat :=
    if places < 0 then (num, den * Nat.pow 2 places.natAbs)
    else (num * Nat.pow 2 places.natAbs, den)
  let most : Int := 53 - (num.log2 : Int) + den.log2
  let fits := (scaled most).1 < (scaled most).2 * Nat.pow 2 53
  let places : Int := min 1074 (if fits then most else most - 1)
  let magnitude : Float :=
    if num = 0 then 0.0
    else (Float.ofNat (roundDiv (scaled places).1 (scaled places).2)).scaleB (-places)
  if negative then -magnitude else magnitude

/-- The first magnitude whose nearest double-precision number would be infinite. -/
def floatIntLimit : Nat := Nat.pow 2 1024 - Nat.pow 2 970

instance : Scalar Float where
  add := (· + ·)
  sub := (· - ·)
  mul := (· * ·)
  div := (· / ·)
  lt a b := decide (a < b)
  le a b := decide (a ≤ b)
  same a b := a == b
  exact := exactOfFloat
  ofDecimal := floatOfDecimal
  ofRatio := floatOfRatio
  infinity negative := if negative then -(1.0 / 0.0) else 1.0 / 0.0
  nan := 0.0 / 0.0
  holdsInt i := Nat.blt i.natAbs floatIntLimit
  text := floatText

end Number
end Folio
