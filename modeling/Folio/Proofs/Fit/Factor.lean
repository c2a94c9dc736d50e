import Mathlib.Tactic.NormNum
import Mathlib.Tactic.Positivity
import Folio.Fit.Scale
import Folio.Proofs.Number.Exactness
import Folio.Proofs.Number.Written

/-!
# Factors as the page gets them

A block that does not fit is shrunk by the ratio of the two widths, but the page is given this
factor with four places. How far the written factor is from the ratio does not depend on the
widths, so that a block that is wide enough may stick out, or vanish (`scaled_fits_iff`).
-/

namespace Folio
namespace Fit

open Number

/-!
## Exact widths
-/

section Exact

variable {α : Type} [Field α] [LinearOrder α] [IsStrictOrderedRing α] [Scalar α] [IsExact α]

@[simp] theorem tolerance_eq : (tolerance : α) = 1 / 2 := by
  rw [tolerance, Scalar.tenths, IsExact.ofDecimal_eq]
  norm_num

theorem scale?_eq_some_iff {natural container s : α} :
    scale? natural container = some s ↔
      0 < natural ∧ 0 < container ∧ container + 1 / 2 < natural ∧ s = container / natural := by
  unfold scale?
  simp only [Bool.or_eq_true, IsExact.le_iff, IsExact.zero_eq, IsExact.add_eq, tolerance_eq]
  split
  · next h =>
      refine ⟨fun hs => absurd hs.symm (Option.some_ne_none s), fun hs => ?_⟩
      rcases h with h | h
      · exact absurd hs.1 h.not_gt
      · exact absurd hs.2.1 h.not_gt
  · next h =>
      rw [not_or, not_le, not_le] at h
      split
      · next hfits =>
          exact ⟨fun hs => absurd hs.symm (Option.some_ne_none s),
            fun hs => absurd hs.2.2.1 hfits.not_gt⟩
      · next hwide =>
          rw [IsExact.div_eq container h.1.ne', Option.some.injEq]
          exact ⟨fun hs => ⟨h.1, h.2, not_le.1 hwide, hs.symm⟩, fun hs => hs.2.2.2.symm⟩

end Exact

/-!
## Four places
-/

/-- The factor of a ratio with four places. -/
def shownFactor (s : ℚ) : ℚ :=
  roundDiv (s.num.natAbs * 10 ^ 4) s.den / 10000

theorem natAbs_div_den {s : ℚ} (h : 0 < s) :
    ((s.num.natAbs * 10 ^ 4 : Nat) : ℚ) / s.den = 10000 * s := by
  have hnum : ((s.num.natAbs : Nat) : ℚ) = s.num := by
    rw [← Int.cast_natCast, Int.natAbs_of_nonneg (Rat.num_pos.2 h).le]
  calc ((s.num.natAbs * 10 ^ 4 : Nat) : ℚ) / s.den
      = 10000 * (s.num / s.den) := by
        rw [Nat.cast_mul, hnum]
        push_cast
        ring
    _ = 10000 * s := by rw [Rat.num_div_den]

/-- The page is given the factor with four places. -/
theorem exists_css {s : ℚ} (h : 0 < s) (index : Int) :
    exists digits d, (Transform.mk index s).css = "scale(".toList ++ digits ++ ")".toList ∧
      readDecimal? digits = some d ∧ (d.digits : ℚ) * 10 ^ d.exponent = shownFactor s := by
  have hexact : Scalar.exact s = .ratio false s.num.natAbs s.den :=
    congrArg (Exact.ratio · s.num.natAbs s.den) (decide_eq_false h.not_gt)
  refine ⟨fixedText 4 s.num.natAbs s.den, _, ?_,
    readDecimal?_fixedText (by decide) s.num.natAbs s.den, ?_⟩
  · show "scale(".toList ++ (Scalar.exact s).fixed 4 ++ ")".toList = _
    rw [hexact]
    rfl
  · rw [shownFactor, div_eq_mul_inv]
    norm_num

/-- A factor that does not vanish is above half of the last place. -/
theorem shownFactor_pos_iff {s : ℚ} (h : 0 < s) : 0 < shownFactor s ↔ 1 < 20000 * s := by
  have hden : (0 : ℚ) < s.den := Nat.cast_pos.2 s.den_pos
  have hratio := natAbs_div_den h
  rw [div_eq_iff hden.ne'] at hratio
  rw [shownFactor, div_pos_iff_of_pos_right (by norm_num), Nat.cast_pos,
    roundDiv_pos_iff s.den_pos]
  constructor
  · intro hlarge
    have hlarge : (s.den : ℚ) < 2 * ((s.num.natAbs * 10 ^ 4 : Nat) : ℚ) := by
      exact_mod_cast hlarge
    have hscaled : 1 * (s.den : ℚ) < 20000 * s * s.den := by linarith
    exact lt_of_mul_lt_mul_right hscaled hden.le
  · intro hlarge
    have hscaled : 1 * (s.den : ℚ) < 20000 * s * s.den := mul_lt_mul_of_pos_right hlarge hden
    have hcast : (s.den : ℚ) < 2 * ((s.num.natAbs * 10 ^ 4 : Nat) : ℚ) := by linarith
    exact_mod_cast hcast

theorem shownFactor_of_roundsDown {s : ℚ} (h : 0 < s) (hdown : RoundsDown (10000 * s)) :
    10000 * shownFactor s = 10000 * s - Int.fract (10000 * s) := by
  have hround := roundDiv_of_roundsDown (s.num.natAbs * 10 ^ 4) s.den_pos
    (by rwa [natAbs_div_den h])
  rw [natAbs_div_den h] at hround
  rw [← hround]
  exact mul_div_cancel₀ _ (by norm_num)

theorem shownFactor_of_not_roundsDown {s : ℚ} (h : 0 < s) (hup : ¬ RoundsDown (10000 * s)) :
    10000 * shownFactor s = 10000 * s + (1 - Int.fract (10000 * s)) := by
  have hround := roundDiv_of_not_roundsDown (s.num.natAbs * 10 ^ 4) s.den_pos
    (by rwa [natAbs_div_den h])
  rw [natAbs_div_den h] at hround
  rw [← hround]
  exact mul_div_cancel₀ _ (by norm_num)

/-!
## Widths
-/

section Width

variable {natural container : ℚ} (hnatural : 0 < natural) (hcontainer : 0 < container)

include hnatural hcontainer

theorem mul_shownFactor_of_roundsDown (hdown : RoundsDown (10000 * (container / natural))) :
    natural * shownFactor (container / natural) ≤ container := by
  have hshown := shownFactor_of_roundsDown (div_pos hcontainer hnatural) hdown
  have hfract := Int.fract_nonneg (10000 * (container / natural))
  have hless : shownFactor (container / natural) ≤ container / natural := by linarith
  calc natural * shownFactor (container / natural)
      ≤ natural * (container / natural) := mul_le_mul_of_nonneg_left hless hnatural.le
    _ = container := mul_div_cancel₀ container hnatural.ne'

theorem mul_shownFactor_of_not_roundsDown
    (hup : ¬ RoundsDown (10000 * (container / natural))) :
    natural * shownFactor (container / natural) =
      container + natural * ((1 - Int.fract (10000 * (container / natural))) / 10000) := by
  have hshown := shownFactor_of_not_roundsDown (div_pos hcontainer hnatural) hup
  have hsum : shownFactor (container / natural) =
      container / natural + (1 - Int.fract (10000 * (container / natural))) / 10000 := by
    linarith
  rw [hsum, mul_add, mul_div_cancel₀ container hnatural.ne']

omit hnatural hcontainer in
/-- What rounding up adds to a width of ten thousand pixels at most. -/
theorem added_le_of_narrow {r : ℚ} (hnarrow : natural ≤ 10000) (hup : ¬ RoundsDown r) :
    natural * ((1 - Int.fract r) / 10000) ≤ 1 / 2 := by
  have hleft : 0 ≤ 1 - Int.fract r := sub_nonneg.2 (Int.fract_lt_one r).le
  have hhalf : 1 - Int.fract r ≤ 1 / 2 := by
    have hfract : 1 / 2 ≤ Int.fract r := not_lt.1 fun hlt => hup (Or.inl hlt)
    linarith
  calc natural * ((1 - Int.fract r) / 10000)
      ≤ 10000 * ((1 / 2) / 10000) := by gcongr
    _ = 1 / 2 := by norm_num

/-- A block stays within half a pixel of its column exactly if the ratio in ten-thousandths is
rounded down, or rounding it up adds no more than that to the width. -/
theorem mul_shownFactor_le_iff :
    natural * shownFactor (container / natural) ≤ container + 1 / 2 ↔
      RoundsDown (10000 * (container / natural)) ∨
        natural * ((1 - Int.fract (10000 * (container / natural))) / 10000) ≤ 1 / 2 := by
  by_cases hr : RoundsDown (10000 * (container / natural))
  · have hfits := mul_shownFactor_of_roundsDown hnatural hcontainer hr
    exact ⟨fun _ => Or.inl hr, fun _ => by linarith⟩
  · rw [mul_shownFactor_of_not_roundsDown hnatural hcontainer hr, add_le_add_iff_left]
    exact ⟨Or.inr, fun hor => hor.resolve_left hr⟩

end Width

/-- A block that is wider than its column gets a factor with four places. The block does not
vanish exactly if its column is wider than a twenty-thousandth of it. It stays within the tolerance
exactly if the ratio in ten-thousandths is rounded down, or rounding it up adds no more than half a
pixel to the width; so every block does that is at most ten thousand pixels wide. -/
theorem scaled_fits_iff {natural container s : ℚ} (h : scale? natural container = some s)
    (index : Int) :
    exists digits d, (Transform.mk index s).css = "scale(".toList ++ digits ++ ")".toList ∧
      readDecimal? digits = some d ∧
      let f := (d.digits : ℚ) * 10 ^ d.exponent
      let r := 10000 * (container / natural)
      (0 < f ↔ natural < 20000 * container) ∧
      (natural * f ≤ container + tolerance ↔
        RoundsDown r ∨ natural * ((1 - Int.fract r) / 10000) ≤ 1 / 2) ∧
      (natural ≤ 10000 -> natural * f ≤ container + tolerance) := by
  rcases scale?_eq_some_iff.1 h with ⟨hnatural, hcontainer, -, rfl⟩
  have hs : 0 < container / natural := div_pos hcontainer hnatural
  rcases exists_css hs index with ⟨digits, d, hcss, hread, hfactor⟩
  have hwithin := mul_shownFactor_le_iff hnatural hcontainer
  refine ⟨digits, d, hcss, hread, ?_⟩
  simp only [hfactor, tolerance_eq]
  refine ⟨?_, hwithin, ?_⟩
  · rw [shownFactor_pos_iff hs, ← mul_div_assoc, one_lt_div hnatural]
  · intro hnarrow
    exact hwithin.2 (or_iff_not_imp_left.2 fun hup => added_le_of_narrow hnarrow hup)

/-- A block of twice the width of its column. -/
theorem scaled_fits_iff_of_half :
    scale? (800 : ℚ) 400 = some (1 / 2) ∧
    exists digits d, (Transform.mk 3 (1 / 2 : ℚ)).css = "scale(".toList ++ digits ++ ")".toList ∧
      readDecimal? digits = some d ∧
      let f := (d.digits : ℚ) * 10 ^ d.exponent
      let r : ℚ := 10000 * (400 / 800)
      (0 < f ↔ (800 : ℚ) < 20000 * 400) ∧
      (800 * f ≤ 400 + tolerance ↔ RoundsDown r ∨ 800 * ((1 - Int.fract r) / 10000) ≤ 1 / 2) ∧
      ((800 : ℚ) ≤ 10000 -> 800 * f ≤ 400 + tolerance) := by
  have hscale : scale? (800 : ℚ) 400 = some (1 / 2) := scale?_eq_some_iff.2 (by norm_num)
  exact ⟨hscale, scaled_fits_iff hscale 3⟩

/-- A very wide block beside a very narrow column vanishes. -/
theorem scaled_vanishes :
    scale? (100000 : ℚ) 1 = some (1 / 100000) ∧
      (Transform.mk 0 (1 / 100000 : ℚ)).css = "scale(0.0000)".toList ∧
      (readDecimal? "0.0000".toList).map (fun d => (d.digits : ℚ) * 10 ^ d.exponent) = some 0 := by
  refine ⟨scale?_eq_some_iff.2 (by norm_num), ?_, ?_⟩
  · decide +kernel
  · decide +kernel

end Fit
end Folio
