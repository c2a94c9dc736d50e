import Folio.Value

/-!
# Amounts

A number that arrives from outside is whole, has a fraction, or is a truth value, and is
kept in that form. Comparisons are exact and do not depend on the form; only where a
machine number is asked for may a whole number be too large.
-/

namespace Folio

open Number

/-- A number as it was given: whole, with a fraction, or as a truth value. -/
inductive Amount (α : Type) where
  | whole (i : Int)
  | real (x : α)
  | truth (b : Bool)
  deriving DecidableEq, Repr

namespace Amount

variable {α : Type} [Scalar α]

/-- The number in a value, if there is one. -/
def ofValue? : Value α -> Option (Amount α)
  | .int i => some (.whole i)
  | .real x => some (.real x)
  | .bool b => some (.truth b)
  | _ => none

/-- The number as a value. -/
def toValue : Amount α -> Value α
  | .whole i => .int i
  | .real x => .real x
  | .truth b => .bool b

/-- The whole number that a number stands for, unless it has a fraction. -/
def whole? : Amount α -> Option Int
  | .whole i => some i
  | .truth b => some (if b then 1 else 0)
  | .real _ => Option.none

/-- Whether a number is below a whole one. -/
def isBelow (a : Amount α) (bound : Int) : Bool :=
  match a with
  | .real x => Scalar.lt x (Scalar.ofInt bound)
  | .whole i => i < bound
  | .truth b => (if b then 1 else 0) < bound

/-- Whether a number is at most a whole one. -/
def isAtMost (a : Amount α) (bound : Int) : Bool :=
  match a with
  | .real x => Scalar.le x (Scalar.ofInt bound)
  | .whole i => i ≤ bound
  | .truth b => (if b then 1 else 0) ≤ bound

/-- A number in full. -/
def text (a : Amount α) : List Char :=
  a.toValue.shown

/-- A number with at most six significant digits, unless it is too large. -/
def plain (a : Amount α) : Except ConversionError (List Char) :=
  a.toValue.toNumber.map fun (x : α) => (Scalar.exact x).plain

/-- The machine number nearest to a number, unless it is too large. -/
def toNumber (a : Amount α) : Except ConversionError α :=
  a.toValue.toNumber

/-- What a number stands for. -/
def exact : Amount α -> Exact
  | .whole i => .ratio (decide (i < 0)) i.natAbs 1
  | .real x => Scalar.exact x
  | .truth b => .ratio false (if b then 1 else 0) 1

/-- Whether a number is below another, in whatever form they are given. -/
def isLess (a b : Amount α) : Bool :=
  a.exact.compare? b.exact = some .lt

/-- Whether two numbers are equal, in whatever form they are given. -/
def same (a b : Amount α) : Bool :=
  a.exact.compare? b.exact = some .eq

/-- The smaller of two numbers; the second of two equal ones. -/
def least (a b : Amount α) : Amount α :=
  if a.isLess b then a else b

/-- The greater of two numbers; the second of two equal ones. -/
def greatest (a b : Amount α) : Amount α :=
  if b.isLess a then a else b

/-- Keep a number between two bounds. A number that is equal to a bound is written as the
bound is. -/
def clamp (a low high : Amount α) : Amount α :=
  (a.least high).greatest low

/-- The quotient of two numbers. For whole numbers it is the number nearest to their ratio,
so they may be too large to hold themselves. -/
def quotient (a b : Amount α) : Except ConversionError α :=
  match a.whole?, b.whole? with
  | some i, some j =>
      .ok (Scalar.ofRatio (decide (i < 0) != decide (j < 0)) i.natAbs j.natAbs)
  | _, _ => do
      let x <- a.toNumber
      let y <- b.toNumber
      pure (Scalar.div x y)

/-- Four times a number. -/
def fourfold : Amount α -> Amount α
  | .whole i => .whole (4 * i)
  | .real x => .real (Scalar.mul x (Scalar.ofInt 4))
  | .truth b => .whole (if b then 4 else 0)

end Amount

end Folio
