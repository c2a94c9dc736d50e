import Mathlib.Data.Rat.Floor
import Mathlib.Tactic.Linarith
import Mathlib.Tactic.Ring
import Folio.Number.Reader
import Folio.Proofs.Math.Token

/-!
# Reading written numbers

A number that was written with a fixed count of places is read back as the rounded number, exactly
(`readDecimal?_fixedText`).
-/

namespace Folio
namespace Number

open Text

/-!
## Rounding
-/

theorem roundDiv_pos_iff {num den : Nat} (h : 0 < den) : 0 < roundDiv num den ↔ den < 2 * num := by
  have hdm := Nat.div_add_mod num den
  have hmod := Nat.mod_lt num h
  cases hq : num / den with
  | zero =>
      rw [hq, Nat.mul_zero, Nat.zero_add] at hdm
      unfold roundDiv
      simp only [hq, hdm]
      split
      · omega
      · split
        · omega
        · simp only [if_true]
          omega
  | succ q =>
      have hle : den ≤ den * (q + 1) := Nat.le_mul_of_pos_right den (Nat.succ_pos q)
      have hnum : den ≤ num := by
        rw [hq] at hdm
        omega
      have hround : 1 ≤ roundDiv num den := le_roundDiv h (by omega)
      constructor
      · intro _
        omega
      · intro _
        exact hround

/-- Whether a number is rounded to the whole number below it. -/
def RoundsDown (r : ℚ) : Prop :=
  Int.fract r < 1 / 2 ∨ Int.fract r = 1 / 2 ∧ Even ⌊r⌋

theorem floor_quotient (num den : Nat) : ⌊(num : ℚ) / den⌋ = ((num / den : Nat) : Int) :=
  Rat.floor_natCast_div_natCast num den

theorem quotient_sub_fract (num den : Nat) :
    (num : ℚ) / den - Int.fract ((num : ℚ) / den) = ((num / den : Nat) : ℚ) := by
  rw [Int.self_sub_fract, floor_quotient, Int.cast_natCast]

section Quotient

variable (num : Nat) {den : Nat} (h : 0 < den)

include h

theorem fract_lt_half_iff : Int.fract ((num : ℚ) / den) < 1 / 2 ↔ 2 * (num % den) < den := by
  have hden : (0 : ℚ) < den := Nat.cast_pos.2 h
  rw [Int.fract_div_natCast_eq_div_natCast_mod, div_lt_div_iff₀ hden two_pos, one_mul,
    mul_comm]
  exact_mod_cast Iff.rfl

theorem fract_eq_half_iff : Int.fract ((num : ℚ) / den) = 1 / 2 ↔ 2 * (num % den) = den := by
  have hden : (den : ℚ) ≠ 0 := Nat.cast_ne_zero.2 h.ne'
  rw [Int.fract_div_natCast_eq_div_natCast_mod, div_eq_div_iff hden two_ne_zero, one_mul,
    mul_comm]
  exact_mod_cast Iff.rfl

theorem roundsDown_iff :
    RoundsDown ((num : ℚ) / den) ↔
      2 * (num % den) < den ∨ 2 * (num % den) = den ∧ num / den % 2 = 0 := by
  rw [RoundsDown, fract_lt_half_iff num h, fract_eq_half_iff num h, floor_quotient,
    Int.even_coe_nat, Nat.even_iff]

/-- A quotient is rounded to the whole number below it, or to the next one. -/
theorem roundDiv_of_roundsDown (hdown : RoundsDown ((num : ℚ) / den)) :
    (roundDiv num den : ℚ) = (num : ℚ) / den - Int.fract ((num : ℚ) / den) := by
  have hround : roundDiv num den = num / den := by
    have hcases := (roundsDown_iff num h).1 hdown
    unfold roundDiv
    simp only
    split
    · rfl
    · split
      · omega
      · rw [if_pos (by omega)]
  rw [quotient_sub_fract, hround]

theorem roundDiv_of_not_roundsDown (hup : ¬ RoundsDown ((num : ℚ) / den)) :
    (roundDiv num den : ℚ) = (num : ℚ) / den + (1 - Int.fract ((num : ℚ) / den)) := by
  have hround : roundDiv num den = num / den + 1 := by
    have hcases := mt (roundsDown_iff num h).2 hup
    unfold roundDiv
    simp only
    split
    · omega
    · split
      · rfl
      · rw [if_neg (by omega)]
  rw [hround, Nat.cast_succ, ← quotient_sub_fract]
  ring

end Quotient

/-!
## Digits
-/

theorem digitValue?_of_isDigit {c : Char} (h : c.isDigit = true) :
    digitValue? c = some (c.toNat - '0'.toNat) := by
  have hbounds : 48 ≤ c.toNat ∧ c.toNat ≤ 57 := by
    simpa [Char.isDigit, UInt32.le_iff_toNat_le] using h
  have hlow : Nat.ble 0x30 c.toNat = true := Nat.ble_eq_true_of_le hbounds.1
  have hhigh : Nat.ble c.toNat 0x39 = true := Nat.ble_eq_true_of_le hbounds.2
  have hvalue : (c.toNat - 0x30) % 10 = c.toNat - 0x30 := Nat.mod_eq_of_lt (by omega)
  simp only [digitValue?, digitRanges, List.find?_cons, hlow, hhigh, Bool.and_self, Option.map_some,
    hvalue]
  rfl

/-- A run of digits is read to its end. -/
theorem readDigits_append {ds : List Char} (h : ∀ c ∈ ds, c.isDigit = true)
    (value count : Nat) (rest : List Char) :
    readDigits value count (ds ++ rest) =
      readDigits (Nat.ofDigitChars 10 ds value) (count + ds.length) rest := by
  induction ds generalizing value count with
  | nil => rfl
  | cons c ds ih =>
      have hc := h c List.mem_cons_self
      have hrest := ih fun d hd => h d (List.mem_cons_of_mem c hd)
      have hunderscore : c ≠ '_' := by
        rintro rfl
        cases hc
      rw [List.cons_append, readDigits.eq_3 _ _ _ _ (fun d _ heq _ => hunderscore heq)]
      simp only [digitValue?_of_isDigit hc]
      rw [hrest, Nat.ofDigitChars_cons, List.length_cons, Nat.mul_comm value,
        Nat.add_assoc count, Nat.add_comm 1]

theorem isDigit_of_mem_padLeft {width n : Nat} {c : Char} (h : c ∈ padLeft width (digitsOf n)) :
    c.isDigit = true := by
  rcases List.mem_append.1 h with hzero | hdigit
  · rw [List.eq_of_mem_replicate hzero]
    rfl
  · exact Math.isDigit_of_mem_digitsOf hdigit

theorem ofDigitChars_padLeft (width n : Nat) :
    Nat.ofDigitChars 10 (padLeft width (digitsOf n)) 0 = n := by
  rw [padLeft, Nat.ofDigitChars_append, Nat.ofDigitChars_replicate_zero, Nat.mul_zero, digitsOf,
    Nat.ofDigitChars_ten_toDigits]

theorem le_length_padLeft (width : Nat) (ds : List Char) : width ≤ (padLeft width ds).length := by
  rw [padLeft, List.length_append, List.length_replicate]
  omega

/-- Digits on both sides of a point are read as one number. -/
theorem readDecimal?_of_digits {whole fraction : List Char}
    (hwhole : ∀ c ∈ whole, c.isDigit = true) (hfraction : ∀ c ∈ fraction, c.isDigit = true)
    (hsome : whole ≠ []) :
    readDecimal? (whole ++ '.' :: fraction) =
      some ⟨Nat.ofDigitChars 10 (whole ++ fraction) 0, -fraction.length⟩ := by
  have hpoint : readDigits 0 0 (whole ++ '.' :: fraction) =
      (Nat.ofDigitChars 10 whole 0, whole.length, '.' :: fraction) := by
    rw [readDigits_append hwhole, Nat.zero_add]
    rfl
  have hend : readDigits 0 0 fraction =
      (Nat.ofDigitChars 10 fraction 0, fraction.length, []) := by
    have hread := readDigits_append hfraction 0 0 []
    rw [List.append_nil, Nat.zero_add] at hread
    rw [hread, readDigits]
  have hcount : whole.length ≠ 0 := fun h => hsome (List.length_eq_zero_iff.1 h)
  have hjoin : Nat.ofDigitChars 10 (whole ++ fraction) 0 =
      Nat.ofDigitChars 10 whole 0 * Nat.pow 10 fraction.length +
        Nat.ofDigitChars 10 fraction 0 := by
    rw [Nat.ofDigitChars_append, Nat.ofDigitChars_eq_ofDigitChars_zero, Nat.mul_comm]
    rfl
  simp only [readDecimal?, hpoint, hend, hcount, decide_false, Bool.false_and, Bool.false_eq_true,
    if_false, readExponent?, Option.map_some, Int.zero_sub, hjoin]

/-- A number with a fixed count of places is read back as the rounded number. -/
theorem readDecimal?_fixedText {places : Nat} (hplaces : places ≠ 0) (num den : Nat) :
    readDecimal? (fixedText places num den) =
      some ⟨roundDiv (num * 10 ^ places) den, -places⟩ := by
  let ds := padLeft (places + 1) (digitsOf (roundDiv (num * Nat.pow 10 places) den))
  have hdigits : ∀ c ∈ ds, c.isDigit = true := fun c hc => isDigit_of_mem_padLeft hc
  have hlength : places + 1 ≤ ds.length := le_length_padLeft _ _
  have hfixed : fixedText places num den =
      ds.take (ds.length - places) ++ '.' :: ds.drop (ds.length - places) :=
    if_neg hplaces
  have hwhole : ds.take (ds.length - places) ≠ [] := by
    intro h
    have htake := congrArg List.length h
    rw [List.length_take, List.length_nil] at htake
    omega
  have hcount : (ds.drop (ds.length - places)).length = places := by
    rw [List.length_drop]
    omega
  rw [hfixed, readDecimal?_of_digits (fun c hc => hdigits c (List.mem_of_mem_take hc))
    (fun c hc => hdigits c (List.mem_of_mem_drop hc)) hwhole, List.take_append_drop, hcount,
    ofDigitChars_padLeft]
  rfl

end Number
end Folio
