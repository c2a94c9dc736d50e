import Folio.Proofs.Text.CaseRun
import Folio.Text.Blank
import Folio.Text.Word

/-!
# Lowered characters

What is true of all targets of the runs is seen from their ends. No target is moved again, so
lowering twice is lowering once (`lower_lower`), and a word character is lowered to a word
character, with one exception. The capital I with a dot becomes two characters, and the second
of them, a dot above, belongs to no word (`isWord_of_mem_lowerChar`).
-/

namespace Folio
namespace Text

/-!
## Ranges
-/

/-- Whether one of the ranges holds all code points from `m` to `n`. -/
def Ranges.cover : Ranges -> Nat -> Nat -> Bool
  | [], _, _ => false
  | (lo, hi) :: rest, m, n => Nat.ble lo m && (Nat.ble n hi || Ranges.cover rest m n)

/-- Whether none of the ranges holds a code point from `m` to `n`. -/
def Ranges.avoid (rs : Ranges) (m n : Nat) : Bool :=
  rs.all fun r => Nat.blt n r.1 || Nat.blt r.2 m

theorem Ranges.holds_of_cover {rs : Ranges} {m n k : Nat} (h : rs.cover m n = true)
    (hlow : m ≤ k) (hhigh : k ≤ n) : rs.holds k = true := by
  induction rs with
  | nil => cases h
  | cons r rest ih =>
      rcases r with ⟨lo, hi⟩
      rw [Ranges.cover, Bool.and_eq_true, Bool.or_eq_true, Nat.ble_eq, Nat.ble_eq] at h
      have hlo : ¬ k < lo := Nat.not_lt_of_le (Nat.le_trans h.1 hlow)
      rw [Ranges.holds_cons, if_neg hlo]
      rcases h.2 with hhi | hrest
      · rw [Nat.ble_eq_true_of_le (Nat.le_trans hhigh hhi), Bool.true_or]
      · rw [ih hrest, Bool.or_true]

theorem Ranges.not_holds_of_avoid {rs : Ranges} {m n k : Nat} (h : rs.avoid m n = true)
    (hlow : m ≤ k) (hhigh : k ≤ n) : rs.holds k = false := by
  rw [Bool.eq_false_iff]
  intro hholds
  rcases Ranges.exists_of_holds hholds with ⟨r, hr, hbounds⟩
  have hr := List.all_eq_true.1 h r hr
  rw [Bool.or_eq_true, Nat.blt_eq, Nat.blt_eq] at hr
  omega

/-!
## Targets
-/

/-- The first target of a run. -/
def CaseRun.low (run : CaseRun) : Nat :=
  Int.toNat (run.first + run.offset)

/-- The last target of a run. -/
def CaseRun.high (run : CaseRun) : Nat :=
  Int.toNat (run.last + run.offset)

/-- Whether a run moves nothing to a letter of another run: the targets end before that run or
start behind it, or it holds every other letter and the targets are the letters between. -/
def CaseRun.misses (run other : CaseRun) : Bool :=
  Nat.blt run.high other.first || Nat.blt other.last run.low ||
    (Nat.beq run.step 2 || Nat.beq run.first run.last) && Nat.beq other.step 2 &&
      Nat.beq ((run.low + other.first) % 2) 1

theorem CaseRun.target?_bounds {run : CaseRun} {n m : Nat} (h : run.target? n = some m) :
    run.low ≤ m ∧ m ≤ run.high := by
  rcases CaseRun.target?_eq_some_iff.1 h with ⟨⟨hfirst, hlast, -⟩, rfl⟩
  unfold CaseRun.low CaseRun.high
  omega

theorem CaseRun.target?_eq_none_of_misses {run other : CaseRun}
    (h : run.misses other = true) (hpos : 0 ≤ run.first + run.offset) {n m : Nat}
    (hm : run.target? n = some m) : other.target? m = none := by
  have hbounds := CaseRun.target?_bounds hm
  rcases CaseRun.target?_eq_some_iff.1 hm with ⟨⟨hfirst, hlast, hstep⟩, htarget⟩
  simp only [CaseRun.misses, Bool.or_eq_true, Bool.and_eq_true, Nat.blt_eq, Nat.beq_eq] at h
  rw [CaseRun.target?, if_neg]
  intro hother
  rcases h with (hbefore | hbehind) | ⟨⟨hsteps, hsecond⟩, hodd⟩
  · omega
  · omega
  · rw [hsecond] at hother
    unfold CaseRun.low at hodd
    rcases hsteps with htwo | hsingle
    · rw [htwo] at hstep
      omega
    · omega

/-!
## The runs of capital letters
-/

theorem lowerRuns_miss : (lowerRuns.all fun run => lowerRuns.all run.misses) = true := by
  decide +kernel

/-- A letter that was lowered is not moved again. -/
theorem mapCase_mapCase (n : Nat) :
    mapCase lowerRuns (mapCase lowerRuns n) = mapCase lowerRuns n := by
  rcases mapCase_cases lowerRuns n with ⟨-, hstays⟩ | ⟨run, hrun, htarget⟩
  · rw [hstays, hstays]
  · apply mapCase_eq_self
    intro other hother
    have hmiss := List.all_eq_true.1 (List.all_eq_true.1 lowerRuns_miss run hrun) other hother
    exact CaseRun.target?_eq_none_of_misses hmiss (lowerRuns_to_characters run hrun).1 htarget

theorem lowerRuns_miss_dotted :
    (lowerRuns.all fun run => run.misses ⟨0x130, 0x130, 2, 0⟩) = true := by
  decide

/-- No letter is moved to the capital I with a dot. -/
theorem mapCase_ne_dotted {n : Nat} (h : n ≠ 0x130) : mapCase lowerRuns n ≠ 0x130 := by
  rcases mapCase_cases lowerRuns n with ⟨-, hstays⟩ | ⟨run, hrun, htarget⟩
  · rw [hstays]
    exact h
  · intro hdotted
    rw [hdotted] at htarget
    have hmiss := List.all_eq_true.1 lowerRuns_miss_dotted run hrun
    have hpos := (lowerRuns_to_characters run hrun).1
    cases CaseRun.target?_eq_none_of_misses hmiss hpos htarget

/-- The targets of a run are word characters, or its letters are none. -/
theorem lowerRuns_to_words : (lowerRuns.all fun run =>
    wordRanges.cover run.low run.high || wordRanges.avoid run.first run.last) = true := by
  decide +kernel

theorem holds_wordRanges_mapCase {n : Nat} (h : wordRanges.holds n = true) :
    wordRanges.holds (mapCase lowerRuns n) = true := by
  rcases mapCase_cases lowerRuns n with ⟨-, hstays⟩ | ⟨run, hrun, htarget⟩
  · rw [hstays]
    exact h
  · have hbounds := CaseRun.target?_bounds htarget
    rcases CaseRun.target?_eq_some_iff.1 htarget with ⟨⟨hfirst, hlast, -⟩, -⟩
    rcases Bool.or_eq_true_iff.1 (List.all_eq_true.1 lowerRuns_to_words run hrun) with
      hcover | havoid
    · exact Ranges.holds_of_cover hcover hbounds.1 hbounds.2
    · rw [Ranges.not_holds_of_avoid havoid hfirst hlast] at h
      cases h

theorem lowerRuns_avoid_blanks :
    (lowerRuns.all fun run => blankRanges.avoid run.first run.last) = true := by
  decide

theorem mapCase_of_blank {n : Nat} (h : blankRanges.holds n = true) :
    mapCase lowerRuns n = n := by
  apply mapCase_eq_self
  intro run hrun
  rw [CaseRun.target?, if_neg]
  rintro ⟨hfirst, hlast, -⟩
  have havoid := List.all_eq_true.1 lowerRuns_avoid_blanks run hrun
  rw [Ranges.not_holds_of_avoid havoid hfirst hlast] at h
  cases h

/-!
## Characters
-/

/-- Whether a character is what it is lowered to. -/
def IsLow (c : Char) : Prop :=
  lowerChar c = [c]

instance (c : Char) : Decidable (IsLow c) :=
  inferInstanceAs (Decidable (_ = _))

theorem isLow_of_mem_lowerChar {c d : Char} (h : d ∈ lowerChar c) : IsLow d := by
  unfold lowerChar at h
  split at h
  · rcases List.mem_cons.1 h with rfl | h
    · decide
    · rw [List.mem_singleton.1 h]
      decide
  next hdotted =>
    rw [List.mem_singleton.1 h]
    have hstill := mapCase_ne_dotted hdotted
    rw [← toNat_lowered] at hstill
    rw [IsLow, lowerChar, if_neg hstill, toNat_lowered, mapCase_mapCase]

theorem isLow_of_isBlank {c : Char} (h : isBlank c = true) : IsLow c := by
  have hdotted : c.toNat ≠ 0x130 := by
    intro heq
    rw [isBlank, heq] at h
    exact absurd h (by decide)
  rw [IsLow, lowerChar, if_neg hdotted, mapCase_of_blank h, Char.ofNat_toNat]

theorem isWord_of_mem_lowerChar {c d : Char} (hc : isWord c = true) (hdotted : c.toNat ≠ 0x130)
    (h : d ∈ lowerChar c) : isWord d = true := by
  rw [lowerChar, if_neg hdotted] at h
  rw [List.mem_singleton.1 h, isWord, toNat_lowered]
  exact holds_wordRanges_mapCase hc

/-!
## Texts
-/

theorem isLow_of_mem_lower {s : List Char} {d : Char} (h : d ∈ lower s) : IsLow d := by
  rcases mem_lowerFrom h with ⟨c, -, hd | ⟨-, rfl⟩⟩
  · exact isLow_of_mem_lowerChar hd
  · decide

/-- Neither the sigma nor the capital I with a dot is lowered to itself. -/
theorem IsLow.toNat_ne {c : Char} (h : IsLow c) : c.toNat ≠ 0x3A3 ∧ c.toNat ≠ 0x130 := by
  have hother {n : Nat} (hn : ¬ IsLow (Char.ofNat n)) : c.toNat ≠ n := by
    rintro rfl
    rw [Char.ofNat_toNat] at hn
    exact hn h
  constructor
  · exact hother (by decide)
  · exact hother (by decide)

theorem lowerFrom_of_isLow {before s : List Char} (h : ∀ c ∈ s, IsLow c) :
    lowerFrom before s = s := by
  induction s generalizing before with
  | nil => rfl
  | cons c rest ih =>
      have hc := h c List.mem_cons_self
      rw [lowerFrom, ih fun b hb => h b (List.mem_cons_of_mem c hb),
        if_neg fun hfinal => hc.toNat_ne.1 hfinal.1, hc]
      rfl

theorem lower_of_isLow {s : List Char} (h : ∀ c ∈ s, IsLow c) : lower s = s :=
  lowerFrom_of_isLow h

/-- Lowering twice is lowering once. -/
theorem lower_lower (s : List Char) : lower (lower s) = lower s :=
  lower_of_isLow fun _ => isLow_of_mem_lower

end Text
end Folio
