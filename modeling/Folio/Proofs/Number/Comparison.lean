import Mathlib
import Folio.Number.Scalar

/-!
# Comparing machine numbers

A double-precision number is compared by its sign, its exponent and its mantissa. This is a
comparison of what the number stands for (`compare_unpack`), since no two forms of a number
are in use: a mantissa has a free digit only at the least exponent (`Holds`). So whatever is
found by comparing machine numbers can be stated on exact values.
-/

namespace Folio
namespace Number

open Float.Model UnpackedFloat

/-!
## The parts of a number
-/

theorem toNat_unpackExponent (b : BitVec Format.binary64.numBits) :
    (unpackExponent b).toNat = b.toNat / 2 ^ 52 % 2048 := by
  simp [unpackExponent, Nat.shiftRight_eq_div_pow]

theorem toNat_unpackMantissa (b : BitVec Format.binary64.numBits) :
    (unpackMantissa b).toNat = b.toNat % 2 ^ 52 := by
  simp [unpackMantissa]

theorem toNat_unpackSign (b : BitVec Format.binary64.numBits) :
    (unpackSign b).toNat = b.toNat / 2 ^ 63 := by
  have hb : b.toNat < 2 ^ 64 := b.isLt
  simp [unpackSign, Nat.shiftRight_eq_div_pow]
  omega

/-- The sign of an unpacked number. -/
def signOf (negative : Bool) : Sign :=
  if negative then .negative else .positive

theorem ofBitVec_unpackSign (b : BitVec Format.binary64.numBits) :
    Sign.ofBitVec (unpackSign b) = signOf (decide (b.toNat / 2 ^ 63 = 1)) := by
  have hbit := toNat_unpackSign b
  have hcases : unpackSign b = 0#1 ∨ unpackSign b = 1#1 := by
    generalize unpackSign b = v
    revert v
    decide
  rcases hcases with h | h
  · rw [h] at hbit ⊢
    rw [← hbit]
    rfl
  · rw [h] at hbit ⊢
    rw [← hbit]
    rfl

/-- How many units of the least positive number make one. -/
def unitsOfOne : Nat :=
  2 ^ 1074

theorem unitsOfOne_pos : 0 < unitsOfOne := by
  rw [unitsOfOne]
  positivity

/-- How many units of the least positive number there are in a number with these parts. -/
def units (exponent fraction : Nat) : Nat :=
  if exponent = 0 then fraction else (2 ^ 52 + fraction) * 2 ^ (exponent - 1)

/-- Whether an unpacked number holds so many units, in the one form that is in use. -/
inductive Holds (negative : Bool) : Nat -> UnpackedFloat -> Prop where
  | zero : Holds negative 0 (.zero (signOf negative))
  | finite {m k : Nat} (hm : 0 < m) (hfull : 2 ^ 52 ≤ m ∨ k = 0) (hbound : m < 2 ^ 53) :
      Holds negative (m * 2 ^ k) (.finite (signOf negative) m ((k : Int) - 1074) hm)

theorem holds_normal (negative : Bool) {exponent fraction : Nat} (he : 0 < exponent)
    (hf : fraction < 2 ^ 52) (hm : 0 < 2 ^ 52 + fraction) :
    Holds negative (units exponent fraction)
      (.finite (signOf negative) (2 ^ 52 + fraction) ((exponent : Int) - 1075) hm) := by
  have hexponent : (exponent : Int) - 1075 = ((exponent - 1 : Nat) : Int) - 1074 := by omega
  rw [hexponent, units, if_neg (by omega)]
  exact .finite hm (Or.inl (Nat.le_add_right _ _)) (by omega)

theorem holds_small (negative : Bool) {fraction : Nat} (hf : fraction < 2 ^ 52)
    (hm : 0 < fraction) :
    Holds negative (units 0 fraction) (.finite (signOf negative) fraction (-1074) hm) := by
  have h : Holds negative (fraction * 2 ^ 0)
      (.finite (signOf negative) fraction (((0 : Nat) : Int) - 1074) hm) :=
    .finite hm (Or.inr rfl) (by omega)
  rw [Nat.pow_zero, Nat.mul_one] at h
  exact h

theorem unpack_of_finite {b : BitVec Format.binary64.numBits}
    (h : b.toNat / 2 ^ 52 % 2048 ≠ 2047) :
    Holds (decide (b.toNat / 2 ^ 63 = 1)) (units (b.toNat / 2 ^ 52 % 2048) (b.toNat % 2 ^ 52))
      (UnpackedFloat.unpack Format.binary64 b) := by
  have hexponent := toNat_unpackExponent b
  have hmantissa := toNat_unpackMantissa b
  have hbound := Nat.mod_lt b.toNat (Nat.two_pow_pos 52)
  have hfinite : unpackExponent b ≠ -1#11 := by
    intro heq
    rw [heq] at hexponent
    exact h hexponent.symm
  rw [← hexponent, ← hmantissa]
  rw [← hmantissa] at hbound
  unfold UnpackedFloat.unpack
  simp only [ofBitVec_unpackSign, hfinite, if_false]
  split
  · next hleast =>
      rw [hleast]
      split
      · next hzero =>
          rw [hzero]
          exact .zero
      · next hsome =>
          have hpos : 0 < (unpackMantissa b).toNat :=
            Nat.pos_of_ne_zero fun heq => hsome (BitVec.eq_of_toNat_eq heq)
          exact holds_small _ hbound hpos
  · next hnormal =>
      have hpos : 0 < (unpackExponent b).toNat :=
        Nat.pos_of_ne_zero fun heq => hnormal (BitVec.eq_of_toNat_eq heq)
      have hfull : (1#1 ++ unpackMantissa b).toNat = 2 ^ 52 + (unpackMantissa b).toNat := by
        rw [BitVec.toNat_append, ← Nat.shiftLeft_add_eq_or_of_lt hbound]
        rfl
      simp only [hfull]
      exact holds_normal _ hpos hbound (Nat.add_pos_left (Nat.two_pow_pos 52) _)

theorem unpack_of_infinite {b : BitVec Format.binary64.numBits}
    (h : b.toNat / 2 ^ 52 % 2048 = 2047) :
    UnpackedFloat.unpack Format.binary64 b = .notANumber ∨
      UnpackedFloat.unpack Format.binary64 b =
        .infinity (signOf (decide (b.toNat / 2 ^ 63 = 1))) := by
  have hexponent : unpackExponent b = -1#11 := by
    apply BitVec.eq_of_toNat_eq
    rw [toNat_unpackExponent, h]
    rfl
  unfold UnpackedFloat.unpack
  simp only [ofBitVec_unpackSign, hexponent, if_true]
  split
  · exact Or.inr rfl
  · exact Or.inl rfl

/-!
## What a number stands for
-/

theorem ratio_binaryOfParts (exponent fraction : Nat) :
    0 < (binaryOfParts exponent fraction).ratio.2 ∧
      (binaryOfParts exponent fraction).ratio.1 * unitsOfOne =
        units exponent fraction * (binaryOfParts exponent fraction).ratio.2 := by
  unfold binaryOfParts units
  split
  · have hratio : (Binary.mk fraction (-1074) false).ratio = (fraction, unitsOfOne) := by
      rw [Binary.ratio, if_pos (show (-1074 : Int) < 0 by decide), unitsOfOne]
      rfl
    rw [hratio]
    exact ⟨unitsOfOne_pos, rfl⟩
  · unfold Binary.ratio unitsOfOne
    simp only [Nat.pow_eq]
    split
    · refine ⟨Nat.two_pow_pos _, ?_⟩
      simp only
      rw [Nat.mul_assoc, ← Nat.pow_add, Nat.add_comm fraction]
      congr 2
      omega
    · refine ⟨Nat.one_pos, ?_⟩
      simp only
      rw [Nat.mul_assoc, ← Nat.pow_add, Nat.add_comm fraction, Nat.mul_one]
      congr 2
      omega

/-- The kinds of numbers, exact and unpacked. -/
inductive Unpacked (x : Float) : Prop where
  | nan (hexact : Scalar.exact x = .nan) (h : x.toModel.unpack = .notANumber)
  | infinite (negative : Bool) (hexact : Scalar.exact x = .infinite negative)
      (h : x.toModel.unpack = .infinity (signOf negative))
  | ratio (negative : Bool) (num den units : Nat) (hden : 0 < den)
      (hunits : num * unitsOfOne = units * den) (hexact : Scalar.exact x = .ratio negative num den)
      (h : Holds negative units x.toModel.unpack)

theorem unpacked (x : Float) : Unpacked x := by
  have hexact : Scalar.exact x = exactOfFloat x := rfl
  have hnan : x.isNaN = x.toModel.unpack.isNaN := rfl
  by_cases h : x.toBits.toNat / 2 ^ 52 % 2048 = 2047
  · have hparts : floatBinary x = (decide (x.toBits.toNat / 2 ^ 63 = 1), none) := by
      simp only [floatBinary, Nat.pow_eq, h, if_true]
    have hkind : x.toModel.unpack = .notANumber ∨
        x.toModel.unpack = .infinity (signOf (decide (x.toBits.toNat / 2 ^ 63 = 1))) :=
      unpack_of_infinite (b := x.toBits.toBitVec) h
    rcases hkind with hx | hx
    · refine .nan ?_ hx
      rw [hexact, exactOfFloat, hparts]
      simp only [hnan, hx]
      rfl
    · refine .infinite _ ?_ hx
      rw [hexact, exactOfFloat, hparts]
      simp only [hnan, hx]
      rfl
  · have hparts : floatBinary x = (decide (x.toBits.toNat / 2 ^ 63 = 1),
        some (x.toBits.toNat / 2 ^ 52 % 2048, x.toBits.toNat % 2 ^ 52)) := by
      simp only [floatBinary, Nat.pow_eq, h, if_false]
    rcases ratio_binaryOfParts (x.toBits.toNat / 2 ^ 52 % 2048) (x.toBits.toNat % 2 ^ 52) with
      ⟨hden, hunits⟩
    refine .ratio _ _ _ _ hden hunits ?_ (unpack_of_finite (b := x.toBits.toBitVec) h)
    rw [hexact, exactOfFloat, hparts]
    rfl

/-- The denominator of a machine number is positive. -/
theorem den_pos {x : Float} {negative : Bool} {num den : Nat}
    (h : Scalar.exact x = .ratio negative num den) : 0 < den := by
  rcases unpacked x with ⟨hexact, -⟩ | ⟨s, hexact, -⟩ | ⟨s, a, b, u, hb, -, hexact, -⟩
  · rw [hexact] at h
    cases h
  · rw [hexact] at h
    cases h
  · rw [hexact] at h
    cases h
    exact hb

/-!
## Comparisons
-/

/-- Pairs that are in the same order compare in the same way. -/
theorem compare_congr {α β : Type} [LinearOrder α] [LinearOrder β] {a b : α} {c d : β}
    (hlt : a < b ↔ c < d) (hgt : b < a ↔ d < c) : compare a b = compare c d := by
  rcases lt_trichotomy a b with h | h | h
  · rw [compare_lt_iff_lt.2 h, compare_lt_iff_lt.2 (hlt.1 h)]
  · have heq : c = d := by
      apply le_antisymm
      · exact not_lt.1 fun hdc => (hgt.2 hdc).ne h.symm
      · exact not_lt.1 fun hcd => (hlt.2 hcd).ne h
    rw [compare_eq_iff_eq.2 h, compare_eq_iff_eq.2 heq]
  · rw [compare_gt_iff_gt.2 h, compare_gt_iff_gt.2 (hgt.1 h)]

@[simp] theorem signed_zero (negative : Bool) : signed negative 0 = 0 := by
  cases negative <;> rfl

theorem signed_true_neg {n : Nat} (h : 0 < n) : signed true n < 0 := by
  simp only [signed, if_true]
  omega

theorem signed_false_pos {n : Nat} (h : 0 < n) : 0 < signed false n := by
  simp only [signed, Bool.false_eq_true, if_false]
  omega

theorem signed_mul (negative : Bool) (a b : Nat) :
    signed negative (a * b) = signed negative a * b := by
  cases negative with
  | true => simp only [signed, if_true, Nat.cast_mul, Int.neg_mul]
  | false => simp only [signed, Bool.false_eq_true, if_false, Nat.cast_mul]

theorem compare_signed_signed (negative : Bool) (a b : Nat) :
    compare (signed negative a) (signed negative b) =
      if negative then (compare a b).swap else compare a b := by
  cases negative with
  | true =>
      rw [if_pos rfl, ← Std.OrientedOrd.eq_swap]
      apply compare_congr <;> simp only [signed, if_true] <;> omega
  | false =>
      rw [if_neg Bool.false_ne_true]
      apply compare_congr <;> simp only [signed, Bool.false_eq_true, if_false] <;> omega

theorem lt_of_exponent_lt {m n k l : Nat} (hm : m < 2 ^ 53) (hn : 2 ^ 52 ≤ n ∨ l = 0)
    (h : k < l) : m * 2 ^ k < n * 2 ^ l := by
  have hfull : 2 ^ 52 ≤ n := hn.resolve_right (by omega)
  calc m * 2 ^ k < 2 ^ 53 * 2 ^ k := Nat.mul_lt_mul_of_pos_right hm (Nat.two_pow_pos k)
    _ = 2 ^ 52 * 2 ^ (k + 1) := by
        rw [← Nat.pow_add, ← Nat.pow_add, Nat.add_comm k, ← Nat.add_assoc]
    _ ≤ 2 ^ 52 * 2 ^ l := Nat.mul_le_mul_left _ (Nat.pow_le_pow_right (by decide) h)
    _ ≤ n * 2 ^ l := Nat.mul_le_mul_right _ hfull

/-- Where no digit is free, the exponent is compared first. -/
theorem compare_units {m n k l : Nat} (hm : m < 2 ^ 53) (hn : n < 2 ^ 53)
    (hk : 2 ^ 52 ≤ m ∨ k = 0) (hl : 2 ^ 52 ≤ n ∨ l = 0) :
    (compare ((k : Int) - 1074) ((l : Int) - 1074)).then (compare m n) =
      compare (m * 2 ^ k) (n * 2 ^ l) := by
  rcases Nat.lt_trichotomy k l with h | rfl | h
  · rw [compare_lt_iff_lt.2 (lt_of_exponent_lt hm hl h),
      compare_lt_iff_lt.2 (by omega : (k : Int) - 1074 < (l : Int) - 1074)]
    rfl
  · have hscale : forall {a b : Nat}, a * 2 ^ k < b * 2 ^ k ↔ a < b :=
      Nat.mul_lt_mul_right (Nat.two_pow_pos k)
    rw [compare_eq_iff_eq.2 rfl, compare_congr hscale hscale]
    rfl
  · rw [compare_gt_iff_gt.2 (lt_of_exponent_lt hn hk h),
      compare_gt_iff_gt.2 (by omega : (l : Int) - 1074 < (k : Int) - 1074)]
    rfl

/-- Unpacked numbers compare as what they hold. -/
theorem Holds.compare_eq {s t : Bool} {u v : Nat} {f g : UnpackedFloat} (hf : Holds s u f)
    (hg : Holds t v g) : f.compare g = some (compare (signed s u) (signed t v)) := by
  cases hf with
  | zero =>
      cases hg with
      | zero => cases s <;> cases t <;> rfl
      | @finite n l hn _ _ =>
          have hpos : 0 < n * 2 ^ l := Nat.mul_pos hn (Nat.two_pow_pos l)
          rw [signed_zero]
          cases t with
          | true => rw [compare_gt_iff_gt.2 (signed_true_neg hpos)]; rfl
          | false => rw [compare_lt_iff_lt.2 (signed_false_pos hpos)]; rfl
  | @finite m k hm hfull hbound =>
      have hpos : 0 < m * 2 ^ k := Nat.mul_pos hm (Nat.two_pow_pos k)
      cases hg with
      | zero =>
          rw [signed_zero]
          cases s with
          | true => rw [compare_lt_iff_lt.2 (signed_true_neg hpos)]; rfl
          | false => rw [compare_gt_iff_gt.2 (signed_false_pos hpos)]; rfl
      | @finite n l hn hfull' hbound' =>
          have hpos' : 0 < n * 2 ^ l := Nat.mul_pos hn (Nat.two_pow_pos l)
          have hunits := compare_units hbound hbound' hfull hfull'
          cases s with
          | true =>
              cases t with
              | true => rw [compare_signed_signed, ← hunits]; rfl
              | false =>
                  rw [compare_lt_iff_lt.2 ((signed_true_neg hpos).trans (signed_false_pos hpos'))]
                  rfl
          | false =>
              cases t with
              | true =>
                  rw [compare_gt_iff_gt.2 ((signed_true_neg hpos').trans (signed_false_pos hpos))]
                  rfl
              | false => rw [compare_signed_signed, ← hunits]; rfl

/-- Ratios compare as the units in them, of whatever size these are. -/
theorem compare_ratio {u v a b c d size : Nat} (s t : Bool) (hsize : 0 < size) (hb : 0 < b)
    (hd : 0 < d) (hab : a * size = u * b) (hcd : c * size = v * d) :
    compare (signed s u) (signed t v) = compare (signed s (a * d)) (signed t (c * b)) := by
  have hsize' : (0 : Int) < size := by exact_mod_cast hsize
  have hfactor : (0 : Int) < ((b * d : Nat) : Int) := by exact_mod_cast Nat.mul_pos hb hd
  have hleft : signed s (a * d) * (size : Int) = signed s u * ((b * d : Nat) : Int) := by
    rw [← signed_mul, ← signed_mul, Nat.mul_right_comm, hab, Nat.mul_assoc]
  have hright : signed t (c * b) * (size : Int) = signed t v * ((b * d : Nat) : Int) := by
    rw [← signed_mul, ← signed_mul, Nat.mul_right_comm, hcd, Nat.mul_assoc, Nat.mul_comm d]
  have hscale : forall {p q r : Int}, 0 < r -> (p * r < q * r ↔ p < q) := by
    intro p q r hr
    exact ⟨fun h => Int.lt_of_mul_lt_mul_right h hr.le, fun h => Int.mul_lt_mul_of_pos_right h hr⟩
  apply compare_congr
  · rw [← hscale hfactor, ← hleft, ← hright, hscale hsize']
  · rw [← hscale hfactor, ← hleft, ← hright, hscale hsize']

/-- Machine numbers compare as what they stand for. -/
theorem compare_unpack (x y : Float) :
    x.toModel.unpack.compare y.toModel.unpack =
      (Scalar.exact x).compare? (Scalar.exact y) := by
  rcases unpacked x with ⟨hx, hux⟩ | ⟨s, hx, hux⟩ | ⟨s, a, b, u, hb, hab, hx, hux⟩
  · rw [hx, hux]
    rfl
  · rcases unpacked y with ⟨hy, huy⟩ | ⟨t, hy, huy⟩ | ⟨t, c, d, v, hd, hcd, hy, huy⟩
    · rw [hx, hux, hy, huy]
      cases s <;> rfl
    · rw [hx, hux, hy, huy]
      cases s <;> cases t <;> rfl
    · rw [hx, hux, hy]
      generalize y.toModel.unpack = g at huy
      cases huy <;> cases s <;> rfl
  · rcases unpacked y with ⟨hy, huy⟩ | ⟨t, hy, huy⟩ | ⟨t, c, d, v, hd, hcd, hy, huy⟩
    · rw [hx, hy, huy]
      generalize x.toModel.unpack = f at hux
      cases hux <;> rfl
    · rw [hx, hy, huy]
      generalize x.toModel.unpack = f at hux
      cases hux <;> cases t <;> rfl
    · rw [hx, hy, hux.compare_eq huy, compare_ratio s t unitsOfOne_pos hb hd hab hcd]
      rfl

theorem lt_iff_exact {x y : Float} :
    Scalar.lt x y = true ↔ (Scalar.exact x).compare? (Scalar.exact y) = some .lt := by
  rw [← compare_unpack]
  show decide (x < y) = true ↔ _
  rw [decide_eq_true_iff]
  show decide (x.toModel < y.toModel) = true ↔ _
  rw [decide_eq_true_iff]
  exact beq_iff_eq

theorem le_iff_exact {x y : Float} :
    Scalar.le x y = true ↔
      (Scalar.exact x).compare? (Scalar.exact y) = some .lt ∨
        (Scalar.exact x).compare? (Scalar.exact y) = some .eq := by
  rw [← compare_unpack]
  show decide (x ≤ y) = true ↔ _
  rw [decide_eq_true_iff]
  show decide (x.toModel ≤ y.toModel) = true ↔ _
  rw [decide_eq_true_iff]
  show (x.toModel.unpack.compare y.toModel.unpack).any (·.isLE) = true ↔ _
  cases x.toModel.unpack.compare y.toModel.unpack with
  | none => simp
  | some o => cases o <;> simp

end Number
end Folio
