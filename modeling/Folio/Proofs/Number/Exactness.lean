import Mathlib.Algebra.Order.Field.Rat
import Folio.Number.Scalar

/-!
# Exact numbers

A kind of number is exact if its operations are those of an ordered field. Ratios are, and
machine numbers are not. What comes of a division by zero is left open, and so is what stands
for an infinity and for no number; nothing that is proved of exact numbers rests on them.
-/

namespace Folio
namespace Number

/-- Whether numbers are calculated with as in the field of them. -/
class IsExact (α : Type) [Field α] [LinearOrder α] [Scalar α] : Prop where
  add_eq (x y : α) : Scalar.add x y = x + y
  sub_eq (x y : α) : Scalar.sub x y = x - y
  mul_eq (x y : α) : Scalar.mul x y = x * y
  div_eq (x : α) {y : α} : y ≠ 0 -> Scalar.div x y = x / y
  lt_iff {x y : α} : Scalar.lt x y = true ↔ x < y
  le_iff {x y : α} : Scalar.le x y = true ↔ x ≤ y
  same_iff {x y : α} : Scalar.same x y = true ↔ x = y
  ofDecimal_eq (negative : Bool) (d : Decimal) :
    (Scalar.ofDecimal negative d : α) =
      (if negative then -1 else 1) * (d.digits * (10 : α) ^ d.exponent)

namespace IsExact

attribute [simp] add_eq sub_eq mul_eq lt_iff le_iff same_iff

variable {α : Type} [Field α] [LinearOrder α] [Scalar α] [IsExact α]

@[simp] theorem zero_eq : (Scalar.zero : α) = 0 := by
  rw [Scalar.zero, Scalar.ofInt, ofDecimal_eq]
  simp

@[simp] theorem one_eq : (Scalar.one : α) = 1 := by
  rw [Scalar.one, Scalar.ofInt, ofDecimal_eq]
  simp

@[simp] theorem maxOf_eq (x y : α) : Scalar.maxOf x y = max x y := by
  unfold Scalar.maxOf
  split
  · next h => exact (max_eq_right (lt_iff.1 h).le).symm
  · next h => exact (max_eq_left (not_lt.1 fun hlt => h (lt_iff.2 hlt))).symm

@[simp] theorem minOf_eq (x y : α) : Scalar.minOf x y = min x y := by
  unfold Scalar.minOf
  split
  · next h => exact (min_eq_right (lt_iff.1 h).le).symm
  · next h => exact (min_eq_left (not_lt.1 fun hlt => h (lt_iff.2 hlt))).symm

end IsExact

/-!
## Ratios
-/

instance : Scalar ℚ where
  add := (· + ·)
  sub := (· - ·)
  mul := (· * ·)
  div := (· / ·)
  lt x y := decide (x < y)
  le x y := decide (x ≤ y)
  same x y := decide (x = y)
  exact x := .ratio (decide (x < 0)) x.num.natAbs x.den
  ofDecimal negative d := (if negative then -1 else 1) * (d.digits * 10 ^ d.exponent)
  ofRatio negative num den := (if negative then -1 else 1) * (num / den)
  infinity _ := 0
  nan := 0
  holdsInt _ := true
  text x := intText x.num ++ '/' :: digitsOf x.den

instance : IsExact ℚ where
  add_eq _ _ := rfl
  sub_eq _ _ := rfl
  mul_eq _ _ := rfl
  div_eq _ _ _ := rfl
  lt_iff := decide_eq_true_iff
  le_iff := decide_eq_true_iff
  same_iff := decide_eq_true_iff
  ofDecimal_eq _ _ := rfl

end Number
end Folio
