import Mathlib.Algebra.Order.Field.Basic
import Folio.Proofs.Viewport.Reading
import Folio.Proofs.Viewport.Timers
import Folio.Proofs.Number.Exactness

/-!
# Panes at the same fraction

A pane that is moved puts the opposite one at its own fraction. In exact numbers that is a
position within the way of the opposite pane (`movement_cases`), both panes stand at the same
fraction then if both can be scrolled, and the opposite pane leaves the first one where it stands,
should it report its movement late. A fraction is formed without a quotient by zero: it is the
same whatever that is taken to be (`Metrics.fraction_withQuotient`).
-/

namespace Folio

namespace Number

/-- The same numbers with other quotients. -/
abbrev Scalar.withQuotient {α : Type} [Scalar α] (quotient : α -> α -> α) : Scalar α :=
  { (inferInstance : Scalar α) with div := quotient }

end Number

namespace Viewport

open Number

variable {α : Type}

/-!
## Fractions
-/

section Fractions

variable [Field α] [LinearOrder α] [Scalar α] [IsExact α]

namespace Metrics

theorem maxScroll_eq (m : Metrics α) : m.maxScroll = max 0 (m.height - m.client) := by
  rw [maxScroll, IsExact.maxOf_eq, IsExact.zero_eq, IsExact.sub_eq]

theorem maxScroll_nonneg (m : Metrics α) : 0 ≤ m.maxScroll := by
  rw [maxScroll_eq]
  exact le_max_left _ _

theorem fraction_of_still {m : Metrics α} (h : m.maxScroll ≤ 0) : m.fraction = 0 := by
  rw [fraction, if_pos (by simpa using h), IsExact.zero_eq]

theorem fraction_of_pos {m : Metrics α} (h : 0 < m.maxScroll) :
    m.fraction = min 1 (max 0 (m.top / m.maxScroll)) := by
  rw [fraction, if_neg (by simpa using h), IsExact.minOf_eq, IsExact.maxOf_eq, IsExact.one_eq,
    IsExact.zero_eq, IsExact.div_eq _ h.ne']

/-- A fraction is formed without a quotient by zero. -/
theorem fraction_withQuotient {quotient : α -> α -> α}
    (h : forall x y, y ≠ 0 -> quotient x y = Scalar.div x y) (m : Metrics α) :
    @fraction α (Scalar.withQuotient quotient) m = m.fraction := by
  have hroom : @maxScroll α (Scalar.withQuotient quotient) m = m.maxScroll := rfl
  unfold fraction
  rw [hroom]
  by_cases hstill : Scalar.le m.maxScroll Scalar.zero = true
  · rw [if_pos hstill]
    exact if_pos hstill
  · have hne : m.maxScroll ≠ 0 := by
      intro heq
      rw [heq] at hstill
      exact hstill (by simp)
    rw [if_neg hstill]
    refine (if_neg hstill).trans ?_
    show Scalar.minOf Scalar.one (Scalar.maxOf Scalar.zero (quotient m.top m.maxScroll)) = _
    rw [h _ _ hne]

variable [IsStrictOrderedRing α]

theorem fraction_nonneg (m : Metrics α) : 0 ≤ m.fraction := by
  rcases le_or_gt m.maxScroll 0 with h | h
  · rw [fraction_of_still h]
  · rw [fraction_of_pos h]
    exact le_min zero_le_one (le_max_left _ _)

theorem fraction_le_one (m : Metrics α) : m.fraction ≤ 1 := by
  rcases le_or_gt m.maxScroll 0 with h | h
  · rw [fraction_of_still h]
    exact zero_le_one
  · rw [fraction_of_pos h]
    exact min_le_left _ _

/-- A pane within its way stands at the part of the way that lies behind it. -/
theorem fraction_of_within {m : Metrics α} (h : 0 < m.maxScroll) (hlow : 0 ≤ m.top)
    (hhigh : m.top ≤ m.maxScroll) : m.fraction = m.top / m.maxScroll := by
  have hnonneg : 0 ≤ m.top / m.maxScroll := div_nonneg hlow h.le
  have hle : m.top / m.maxScroll ≤ 1 := (div_le_one h).2 hhigh
  rw [fraction_of_pos h, max_eq_right hnonneg, min_eq_right hle]

/-- A pane that is put at a fraction of its way stands there. -/
theorem fraction_put {m : Metrics α} (h : 0 < m.maxScroll) {x : α} (hlow : 0 ≤ x) (hhigh : x ≤ 1) :
    ({ m with top := x * m.maxScroll } : Metrics α).fraction = x := by
  have hwithin := fraction_of_within (m := { m with top := x * m.maxScroll }) h
    (mul_nonneg hlow h.le) (mul_le_of_le_one_left h.le hhigh)
  rw [hwithin]
  exact mul_div_cancel_right₀ x h.ne'

/-- A pane within its way is not moved by being put at its fraction. -/
theorem put_fraction {m : Metrics α} (h : 0 < m.maxScroll) (hlow : 0 ≤ m.top)
    (hhigh : m.top ≤ m.maxScroll) : m.fraction * m.maxScroll = m.top := by
  rw [fraction_of_within h hlow hhigh]
  exact div_mul_cancel₀ m.top h.ne'

end Metrics

end Fractions

namespace Session

variable [Scalar α]

/-!
## Movements
-/

/-- A movement moves no pane, or puts the opposite one at the fraction of the one that moved. -/
theorem movement_cases (s : Session (Bench α) α) (side : Side) :
    (s.act (.movement side)).moves = s.moves ∨
      exists driving following, s.shown side = some driving ∧
        s.shown side.other = some following ∧
        (s.act (.movement side)).moves = side.other :: s.moves ∧
        (s.act (.movement side)).shown side.other = some { following with
          top := Scalar.mul driving.fraction following.maxScroll } := by
  rcases scrolled_cases side { s with fault := none } with ⟨-, h⟩ | ⟨-, h | ⟨e, h⟩⟩ |
    ⟨hsync, hdriver, -, hsound, driving, following, hdriving, hfollowing, -⟩
  · have hmoves := congrArg moves h
    exact Or.inl hmoves
  · exact Or.inl ((congrArg moves h).trans (moves_observe _ side))
  · exact Or.inl ((congrArg moves h).trans (moves_observe _ side))
  · have hmoves := moves_scrolled_of_metrics hsync hsound hdriver hdriving hfollowing
    rw [metrics_eq_shown, shown_observe] at hdriving hfollowing
    have hshown := shown_scrolled_of_shown hsync hsound hdriver (Except.ok.inj hdriving)
      (Except.ok.inj hfollowing) side.other
    rw [if_pos rfl] at hshown
    exact Or.inr ⟨driving, following, Except.ok.inj hdriving, Except.ok.inj hfollowing, hmoves,
      hshown⟩

/-- Whether a movement of a pane is followed by the opposite one. -/
structure Follows (s : Session (Bench α) α) (side : Side) : Prop where
  sync : s.coordinator.sync = true
  driver : s.coordinator.driver ≠ some side.other
  readable : exists ps, s.coordinator.headings = .ok ps

/-- A movement that is followed moves the opposite pane to the fraction of the one that moved,
and leaves that one where it stands. -/
theorem Follows.movement {s : Session (Bench α) α} {side : Side} (h : s.Follows side)
    {driving following : Metrics α} (hdriving : s.shown side = some driving)
    (hfollowing : s.shown side.other = some following) :
    (s.act (.movement side)).moves = side.other :: s.moves ∧
      (s.act (.movement side)).shown side = some driving ∧
      (s.act (.movement side)).shown side.other = some { following with
        top := Scalar.mul driving.fraction following.maxScroll } := by
  have hsound : (observe { s with fault := none } side).isSound = true := by
    rw [isSound, fault_observe (s := { s with fault := none }) h.readable]
    rfl
  have hseen : forall pane, (observe { s with fault := none } side).metrics pane =
      .ok (s.shown pane) := by
    intro pane
    rw [metrics_eq_shown, shown_observe]
    rfl
  refine ⟨?_, ?_, ?_⟩
  · exact moves_scrolled_of_metrics h.sync hsound h.driver ((hseen side).trans (by rw [hdriving]))
      ((hseen side.other).trans (by rw [hfollowing]))
  · exact (shown_scrolled_self { s with fault := none } side).trans hdriving
  · exact (shown_scrolled_of_shown (s := { s with fault := none }) h.sync hsound h.driver hdriving
      hfollowing side.other).trans (if_pos rfl)

variable [Field α] [LinearOrder α] [IsStrictOrderedRing α] [IsExact α]

/-- Once no pane drives any more, a pane that was put at the fraction of another one reports its
movement, late, and puts the other one where it stands. -/
theorem Follows.late_movement {s : Session (Bench α) α} {side : Side}
    (hlate : s.Follows side.other) {driving following : Metrics α}
    (hdriving : s.shown side = some driving) (hfollowing : s.shown side.other = some following)
    (hroom : 0 < driving.maxScroll) (hlow : 0 ≤ driving.top)
    (hhigh : driving.top ≤ driving.maxScroll) (hfraction : following.fraction = driving.fraction) :
    (s.act (.movement side.other)).moves = side :: s.moves ∧
      (s.act (.movement side.other)).shown side = some driving := by
  have hback : s.shown side.other.other = some driving := by rw [Side.other_other, hdriving]
  rcases hlate.movement hfollowing hback with ⟨hmoves, -, hshown⟩
  rw [Side.other_other] at hmoves hshown
  refine ⟨hmoves, ?_⟩
  rw [hshown, IsExact.mul_eq, hfraction, Metrics.put_fraction hroom hlow hhigh]

/-- Panes that are kept together stand at the same fraction. A movement moves no pane, or puts
the opposite one, once, at a position within its way, which is zero if it cannot be scrolled. No
quotient by zero is formed for this. If the movement is followed, both panes can be scrolled and
the pane that moved stands within its way, then both stand at the same fraction behind it; and
whenever no pane drives any more, while the panes are still kept together and stand where they
stood, the report of the opposite pane puts the first one where it stands. -/
theorem movement_keeps_fraction (s : Session (Bench α) α) (side : Side) :
    let u := s.act (.movement side)
    (u.moves = s.moves ∨
      exists following x, s.shown side.other = some following ∧
        u.moves = side.other :: s.moves ∧
        u.shown side.other = some { following with top := x } ∧
        0 ≤ x ∧ x ≤ max 0 (following.height - following.client) ∧
        (following.height ≤ following.client -> x = 0)) ∧
    (forall quotient : α -> α -> α, (forall x y, y ≠ 0 -> quotient x y = Scalar.div x y) ->
      forall m, @Metrics.fraction α (Scalar.withQuotient quotient) m = m.fraction) ∧
    (forall driving following, s.Follows side -> s.shown side = some driving ->
      s.shown side.other = some following -> driving.client < driving.height ->
      following.client < following.height -> 0 ≤ driving.top ->
      driving.top ≤ driving.height - driving.client ->
      exists followed, u.moves = side.other :: s.moves ∧ u.shown side = some driving ∧
        u.shown side.other = some followed ∧ followed.fraction = driving.fraction ∧
        forall v : Session (Bench α) α, v.coordinator.sync = true ->
          v.coordinator.driver = none -> (exists ps, v.coordinator.headings = .ok ps) ->
          v.shown side = some driving -> v.shown side.other = some followed ->
          (v.act (.movement side.other)).moves = side :: v.moves ∧
            (v.act (.movement side.other)).shown side = some driving) := by
  intro u
  refine ⟨?_, fun quotient h => Metrics.fraction_withQuotient h, ?_⟩
  · rcases movement_cases s side with h | ⟨driving, following, -, hfollowing, hmoves, hshown⟩
    · exact Or.inl h
    · rw [IsExact.mul_eq] at hshown
      refine Or.inr ⟨following, _, hfollowing, hmoves, hshown, ?_, ?_, ?_⟩
      · exact mul_nonneg driving.fraction_nonneg following.maxScroll_nonneg
      · rw [← following.maxScroll_eq]
        exact mul_le_of_le_one_left following.maxScroll_nonneg driving.fraction_le_one
      · intro hstill
        rw [following.maxScroll_eq, max_eq_left (sub_nonpos.2 hstill), mul_zero]
  · intro driving following hfollows hdriving hfollowing hroom hspace hlow hhigh
    have hwithin : driving.maxScroll = driving.height - driving.client := by
      rw [driving.maxScroll_eq, max_eq_right (sub_pos.2 hroom).le]
    have hdrivingRoom : 0 < driving.maxScroll := by
      rw [hwithin]
      exact sub_pos.2 hroom
    have hfollowingRoom : 0 < following.maxScroll := by
      rw [following.maxScroll_eq]
      exact lt_max_of_lt_right (sub_pos.2 hspace)
    rcases hfollows.movement hdriving hfollowing with ⟨hmoves, hkept, hput⟩
    rw [IsExact.mul_eq] at hput
    have hfraction := Metrics.fraction_put hfollowingRoom driving.fraction_nonneg
      driving.fraction_le_one
    refine ⟨_, hmoves, hkept, hput, hfraction, ?_⟩
    intro v hsync hdriver hreadable hthere hother
    have hlate : v.Follows side.other := ⟨hsync, by rw [hdriver]; nofun, hreadable⟩
    exact hlate.late_movement hthere hother hdrivingRoom hlow (hwithin ▸ hhigh) hfraction

/-- The source is moved, and the preview reports its movement at once, and once more when the
timer has run out. -/
theorem movement_keeps_fraction_of_two_panes :
    let source : Metrics ℚ := ⟨30, 200, 100⟩
    let preview : Metrics ℚ := ⟨60, 500, 300⟩
    let b : Bench ℚ :=
      ⟨some ⟨source, none, true⟩, some ⟨{ preview with top := 0 }, none, true⟩, .direct false, true,
        true, []⟩
    let s := opened 100 true b (.direct false)
    let u := s.act (.movement .source)
    let v := u.act .runOut
    s.Follows .source ∧ u.coordinator.driver = some .source ∧ u.moves = [.preview] ∧
      u.shown .preview = some preview ∧ preview.fraction = source.fraction ∧
      v.coordinator.driver = none ∧ (v.act (.movement .preview)).moves = [.source, .preview] ∧
      (v.act (.movement .preview)).shown .source = some source := by
  intro source preview b s u v
  have hsteady : s.IsSteady := isSteady_opened 100 true b (by simp [idleTimers])
  have hidle : s.coordinator.driver ≠ some .preview := by
    intro h
    cases h
  have hfollows : s.Follows .source := ⟨rfl, hidle, hsteady.readable⟩
  have hdriver : u.coordinator.driver = some .source := by decide +kernel
  have hrest : v.coordinator.driver = none := by decide +kernel
  have hsync : v.coordinator.sync = true := by decide +kernel
  have hplaced : u.shown .preview = some preview := by decide +kernel
  rcases (movement_keeps_fraction s .source).2.2 source { preview with top := 0 } hfollows rfl rfl
    (by decide) (by decide) (by decide) (by decide +kernel) with
    ⟨followed, hmoves, -, hput, hfraction, hlate⟩
  have hsame : followed = preview := Option.some.inj (hput.symm.trans hplaced)
  subst hsame
  have hreadable : exists ps, v.coordinator.headings = .ok ps :=
    ((hsteady.act (a := .movement .source) trivial).act (a := .runOut) trivial).readable
  rcases hlate v hsync hrest hreadable (by decide +kernel) (by decide +kernel) with
    ⟨hback, hthere⟩
  have hunmoved : v.moves = u.moves := moves_afterTimer _ _
  rw [hunmoved, hmoves] at hback
  exact ⟨hfollows, hdriver, hmoves, hplaced, hfraction, hrest, hback, hthere⟩

end Session
end Viewport
end Folio
