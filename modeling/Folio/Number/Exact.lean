import Folio.Number.Rounding

/-!
# Exact values

What a machine number stands for: a ratio, an infinity, or nothing at all. Printing
and rounding are defined on these values, so they do not depend on how a number is
held.
-/

namespace Folio
namespace Number

/-- The exact value of a number. -/
inductive Exact where
  /-- Not a number. -/
  | nan
  /-- Beyond all numbers of its sign. -/
  | infinite (negative : Bool)
  /-- The ratio `num / den` with its sign; zero keeps a sign too. -/
  | ratio (negative : Bool) (num den : Nat)
  deriving DecidableEq, Repr

/-- What becomes of a value when its fraction is cut off or rounded away. -/
inductive Whole where
  /-- A whole number. -/
  | whole (n : Int)
  /-- The value was no number. -/
  | nan
  /-- The value was an infinity. -/
  | infinite
  deriving DecidableEq, Repr

/-- Give a natural number a sign. -/
def signed (negative : Bool) (n : Nat) : Int :=
  if negative then -(n : Int) else n

/-- Cut the fraction off, toward zero. -/
def Exact.truncate : Exact -> Whole
  | .nan => .nan
  | .infinite _ => .infinite
  | .ratio negative num den => .whole (signed negative (num / den))

/-- The nearest whole number after scaling by `scale`; a half goes to the even one. -/
def Exact.roundScaled (scale : Nat) : Exact -> Whole
  | .nan => .nan
  | .infinite _ => .infinite
  | .ratio negative num den => .whole (signed negative (roundDiv (num * scale) den))

/-- How two values compare, unless one of them is not a number. Zeros of either sign are
equal. -/
def Exact.compare? : Exact -> Exact -> Option Ordering
  | .nan, _ => none
  | _, .nan => none
  | .infinite m, .infinite n => some (compare (signed m 1) (signed n 1))
  | .infinite m, .ratio _ _ _ => some (if m then .lt else .gt)
  | .ratio _ _ _, .infinite n => some (if n then .gt else .lt)
  | .ratio m a b, .ratio n c d => some (compare (signed m (a * d)) (signed n (c * b)))

/-- The nearest whole number; a half goes to the even one. -/
def Exact.round (x : Exact) : Whole :=
  x.roundScaled 1

end Number
end Folio
