import Folio.Number.Reader
import Folio.Proofs.Number.Comparison
import Folio.Viewport.Zoom

/-!
# Zooms in hundredths

A number that is wanted for the zoom is compared and rounded on its exact value, so the zoom
taken for it is a whole count of hundredths within the bounds, whatever the number is
(`clampZoom_eq`). A step of a tenth is not exact on machine numbers. That rounding takes the error
away, how a count compares with one, and how it is written, is decided count by count.
-/

namespace Folio
namespace Viewport

open Number

/-!
## The nearest zoom
-/

/-- The zoom in hundredths that is nearest to what a number stands for. What is no number is
taken for a small one. -/
def nearestZoom : Exact -> Nat
  | .nan => 50
  | .infinite negative => if negative then 50 else 200
  | .ratio negative num den =>
      if negative then 50 else min 200 (max 50 (roundDiv (num * 100) den))

theorem nearestZoom_bounds (x : Exact) : 50 ≤ nearestZoom x ∧ nearestZoom x ≤ 200 := by
  unfold nearestZoom
  split
  · omega
  · split <;> omega
  · split <;> omega

theorem nearestZoom_of_small {num den : Nat} (hden : 0 < den) (h : num * 2 ≤ den) :
    nearestZoom (.ratio false num den) = 50 := by
  have hround : roundDiv (num * 100) den ≤ 50 := roundDiv_le hden (by omega)
  simp only [nearestZoom, Bool.false_eq_true, if_false]
  omega

theorem nearestZoom_of_large {num den : Nat} (hden : 0 < den) (h : 2 * den ≤ num) :
    nearestZoom (.ratio false num den) = 200 := by
  have hround : 200 ≤ roundDiv (num * 100) den := le_roundDiv hden (by omega)
  simp only [nearestZoom, Bool.false_eq_true, if_false]
  omega

theorem nearestZoom_of_between {num den : Nat} (hden : 0 < den) (hsmall : den < num * 2)
    (hlarge : num < 2 * den) :
    nearestZoom (.ratio false num den) = roundDiv (num * 100) den := by
  have hlow : 50 ≤ roundDiv (num * 100) den := le_roundDiv hden (by omega)
  have hhigh : roundDiv (num * 100) den ≤ 200 := roundDiv_le hden (by omega)
  simp only [nearestZoom, Bool.false_eq_true, if_false]
  omega

theorem exact_half : Scalar.exact (Scalar.tenths 5 : Float) = .ratio false (2 ^ 52) (2 ^ 53) :=
  rfl

theorem exact_two : Scalar.exact (Scalar.ofInt 2 : Float) = .ratio false (2 ^ 52) (2 ^ 51) :=
  rfl

theorem compare?_ratio_eq_lt {a b c d : Nat} :
    Exact.compare? (.ratio false a b) (.ratio false c d) = some .lt ↔ a * d < c * b := by
  simp only [Exact.compare?, signed, Bool.false_eq_true, if_false, Option.some.injEq]
  rw [compare_lt_iff_lt, Nat.cast_lt]

theorem compare?_ratio_ne_lt (a b c d : Nat) :
    Exact.compare? (.ratio false a b) (.ratio true c d) ≠ some .lt := by
  simp only [Exact.compare?, signed, if_true, Bool.false_eq_true, if_false, ne_eq,
    Option.some.injEq]
  rw [compare_lt_iff_lt]
  omega

theorem clampZoom_of_small {x : Float} (h : ¬ Scalar.lt (Scalar.tenths 5) x = true) :
    clampZoom x = Scalar.hundredths 50 := by
  rw [clampZoom, Scalar.maxOf, if_neg h]
  rfl

theorem clampZoom_of_large {x : Float} (hsmall : Scalar.lt (Scalar.tenths 5) x = true)
    (hlarge : ¬ Scalar.lt x (Scalar.ofInt 2) = true) : clampZoom x = Scalar.hundredths 200 := by
  rw [clampZoom, Scalar.maxOf, if_pos hsmall, Scalar.minOf, if_neg hlarge]
  rfl

theorem clampZoom_of_between {x : Float} (hsmall : Scalar.lt (Scalar.tenths 5) x = true)
    (hlarge : Scalar.lt x (Scalar.ofInt 2) = true) : clampZoom x = Scalar.roundHundredths x := by
  rw [clampZoom, Scalar.maxOf, if_pos hsmall, Scalar.minOf, if_pos hlarge]

theorem roundHundredths_of_ratio {x : Float} {num den : Nat}
    (h : Scalar.exact x = .ratio false num den) :
    Scalar.roundHundredths x = Scalar.hundredths (roundDiv (num * 100) den : Nat) := by
  rw [Scalar.roundHundredths, h]
  rfl

/-- The zoom taken for a number is the nearest one in hundredths, whatever the number is. -/
theorem clampZoom_eq (x : Float) :
    clampZoom x = Scalar.hundredths (nearestZoom (Scalar.exact x) : Nat) := by
  have hsmall := @lt_iff_exact (Scalar.tenths 5) x
  have hlarge := @lt_iff_exact x (Scalar.ofInt 2)
  rw [exact_half] at hsmall
  rw [exact_two] at hlarge
  cases hx : Scalar.exact x with
  | nan =>
      rw [hx] at hsmall
      exact clampZoom_of_small (mt hsmall.1 nofun)
  | infinite negative =>
      rw [hx] at hsmall hlarge
      cases negative with
      | true => exact clampZoom_of_small (mt hsmall.1 nofun)
      | false => exact clampZoom_of_large (hsmall.2 rfl) (mt hlarge.1 nofun)
  | ratio negative num den =>
      have hden := den_pos hx
      rw [hx] at hsmall hlarge
      cases negative with
      | true => exact clampZoom_of_small (mt hsmall.1 (compare?_ratio_ne_lt _ _ _ _))
      | false =>
          rw [compare?_ratio_eq_lt] at hsmall hlarge
          by_cases habove : den < num * 2
          · have hhalf := hsmall.2 (by omega)
            by_cases hbelow : num < 2 * den
            · rw [clampZoom_of_between hhalf (hlarge.2 (by omega)), roundHundredths_of_ratio hx,
                nearestZoom_of_between hden habove hbelow]
            · rw [nearestZoom_of_large hden (by omega)]
              exact clampZoom_of_large hhalf (mt hlarge.1 (by omega))
          · rw [nearestZoom_of_small hden (by omega)]
            exact clampZoom_of_small (mt hsmall.1 (by omega))

/-!
## Counts
-/

/-- A count of hundredths as decimal text. -/
def hundredthsText (k : Nat) : List Char :=
  digitsOf (k / 100) ++
    if k % 100 = 0 then [] else '.' :: dropZeros (padLeft 2 (digitsOf (k % 100)))

/-- The zoom of a count of hundredths behaves as the count does. -/
@[mk_iff]
structure IsFaithful (k : Nat) : Prop where
  raised : nearestZoom (Scalar.exact (Scalar.add (Scalar.hundredths k) zoomStep : Float)) =
    min 200 (k + 10)
  lowered : nearestZoom (Scalar.exact (Scalar.sub (Scalar.hundredths k) zoomStep : Float)) =
    max 50 (k - 10)
  quotient : (Scalar.hundredths k : Float) = Float.ofNat k / 100
  same_one : Scalar.same (Scalar.hundredths k : Float) Scalar.one = decide (k = 100)
  one_lt : Scalar.lt Scalar.one (Scalar.hundredths k : Float) = decide (100 < k)
  plain : (Scalar.exact (Scalar.hundredths k : Float)).plain = hundredthsText k
  /-- The text names the count exactly. -/
  read : (readDecimal? (hundredthsText k)).map (fun d => (d.digits : ℚ) * 10 ^ d.exponent) =
    some ((k : ℚ) / 100)

instance (k : Nat) : Decidable (IsFaithful k) :=
  decidable_of_iff' _ (isFaithful_iff k)

-- One evaluation for all properties, so that each zoom is computed once.
theorem isFaithful_of_lt : ∀ k : Nat, k < 201 -> 50 ≤ k -> IsFaithful k := by
  decide +kernel

theorem isFaithful {k : Nat} (hlow : 50 ≤ k) (hhigh : k ≤ 200) : IsFaithful k :=
  isFaithful_of_lt k (Nat.lt_succ_of_le hhigh) hlow

/-!
## Transforms
-/

/-- The room left below a page of a height that is zoomed to a count of hundredths. -/
def marginBelow (k : Nat) : Option Float -> Float
  | none => Scalar.zero
  | some h =>
      if 100 < k ∧ Scalar.same h Scalar.zero = false then
        Scalar.mul (Scalar.sub (Scalar.hundredths k) Scalar.one) h
      else
        Scalar.zero

namespace Transform

theorem ofZoom_hundredths {k : Nat} (hlow : 50 ≤ k) (hhigh : k ≤ 200) (height : Option Float) :
    ofZoom (Scalar.hundredths k) height = ⟨Scalar.hundredths k, marginBelow k height⟩ := by
  have hcount := isFaithful hlow hhigh
  unfold ofZoom
  rw [hcount.same_one, hcount.one_lt]
  by_cases hone : k = 100
  · subst hone
    have hunit : (Scalar.hundredths 100 : Float) = Scalar.one := rfl
    cases height with
    | none => exact congrArg (Transform.mk · Scalar.zero) hunit.symm
    | some h => exact congrArg (Transform.mk · Scalar.zero) hunit.symm
  · rw [if_neg (by simpa using hone)]
    cases height with
    | none => rfl
    | some h =>
        simp only [marginBelow, Bool.and_eq_true, decide_eq_true_eq, Bool.not_eq_true']
        split <;> rfl

/-- A transform names the same count of hundredths as the zoom, and none where the page keeps its
size. -/
theorem css_hundredths {k : Nat} (hlow : 50 ≤ k) (hhigh : k ≤ 200) (margin : Float) :
    css ⟨Scalar.hundredths k, margin⟩ =
      if k = 100 then "none".toList else "scale(".toList ++ hundredthsText k ++ ")".toList := by
  have hcount := isFaithful hlow hhigh
  simp only [css, isIdentity, hcount.same_one, hcount.plain, decide_eq_true_eq]

end Transform
end Viewport
end Folio
