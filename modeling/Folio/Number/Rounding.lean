/-!
# Rounding a quotient

Quotients of natural numbers are rounded to the nearest whole number, and a half
goes to the even neighbour. All rounding of printed numbers goes through here, so
it is done once and on the exact value.
-/

namespace Folio
namespace Number

/-- The whole number nearest to `num / den`; of two equally near, the even one. -/
def roundDiv (num den : Nat) : Nat :=
  let q := num / den
  let r := num % den
  if 2 * r < den then q
  else if den < 2 * r then q + 1
  else if q % 2 = 0 then q
  else q + 1

/-- A rounded quotient is at most half a unit away from the exact one. -/
theorem roundDiv_near (num den : Nat) (h : 0 < den) :
    2 * (roundDiv num den * den) ≤ 2 * num + den ∧
      2 * num ≤ 2 * (roundDiv num den * den) + den := by
  have hdm := Nat.div_add_mod num den
  have hr := Nat.mod_lt num h
  have hc : den * (num / den) = num / den * den := Nat.mul_comm _ _
  have hs : (num / den + 1) * den = num / den * den + den := by
    rw [Nat.add_mul, Nat.one_mul]
  unfold roundDiv
  simp only
  split
  · omega
  · split
    · omega
    · split <;> omega

theorem roundDiv_le {num den n : Nat} (hden : 0 < den) (h : num ≤ n * den) :
    roundDiv num den ≤ n := by
  have hnear := (roundDiv_near num den hden).1
  have hdouble : 2 * roundDiv num den * den ≤ (2 * n + 1) * den := by
    rw [Nat.mul_assoc, Nat.add_mul, Nat.mul_assoc, Nat.one_mul]
    omega
  have hfactor := Nat.le_of_mul_le_mul_right hdouble hden
  omega

theorem le_roundDiv {num den n : Nat} (hden : 0 < den) (h : n * den ≤ num) :
    n ≤ roundDiv num den := by
  have hnear := (roundDiv_near num den hden).2
  have hdouble : 2 * n * den ≤ (2 * roundDiv num den + 1) * den := by
    rw [Nat.mul_assoc, Nat.add_mul, Nat.mul_assoc, Nat.one_mul]
    omega
  have hfactor := Nat.le_of_mul_le_mul_right hdouble hden
  omega

/-- A quotient that is whole is not changed. -/
theorem roundDiv_mul (n den : Nat) (h : 0 < den) : roundDiv (n * den) den = n := by
  unfold roundDiv
  simp [Nat.mul_div_cancel _ h, Nat.mul_mod_left, h]

end Number
end Folio
