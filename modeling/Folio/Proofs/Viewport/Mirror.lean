import Folio.Viewport.Session

/-!
# Handling a movement

`scrolled_cases` says all that the report of a movement can lead to. The pane that is moved
in turn may report this at once; its report finds the other pane driving, so it is looked at
and not followed.
-/

namespace Folio
namespace Viewport

theorem Side.eq_or_eq_other (a b : Side) : a = b ∨ a = b.other := by
  cases a <;> cases b <;> decide

namespace Session

open Number

variable {σ α : Type}

/-!
## What stays as it is
-/

@[simp] theorem sync_fail (s : Session σ α) (e : ConversionError) :
    (s.fail e).coordinator.sync = s.coordinator.sync := rfl

@[simp] theorem sync_drive (s : Session σ α) (side : Side) :
    (s.drive side).coordinator.sync = s.coordinator.sync := rfl

variable [Surroundings σ α]

@[simp] theorem driver_rearm (s : Session σ α) :
    s.rearm.coordinator.driver = s.coordinator.driver := rfl

@[simp] theorem sync_place (s : Session σ α) (side : Side) (x : α) :
    (s.place side x).1.coordinator.sync = s.coordinator.sync := by
  unfold place
  split <;> rfl

variable [Scalar α]

@[simp] theorem sync_setActive (s : Session σ α) (id : Value α) :
    (s.setActive id).coordinator.sync = s.coordinator.sync := by
  unfold setActive
  split <;> rfl

@[simp] theorem sync_track (s : Session σ α) :
    s.track.coordinator.sync = s.coordinator.sync := by
  unfold track
  split
  · rfl
  · rfl
  · split
    · rfl
    · rw [sync_setActive]
      rfl

@[simp] theorem sync_observe (s : Session σ α) (side : Side) :
    (s.observe side).coordinator.sync = s.coordinator.sync := by
  cases side with
  | source => rfl
  | preview => exact sync_track s

/-!
## Movements
-/

/-- The end of a movement that was followed: the timer starts over, and the fraction of the
driving pane is kept. -/
def settled (s : Session σ α) (side : Side) (fraction : α) : Session σ α :=
  { s.rearm with coordinator := s.rearm.coordinator.setFraction side fraction }

/-- The state behind the movement of a pane, which may have been reported. -/
def echoed (moved : Session σ α × Bool) (side : Side) : Session σ α :=
  if moved.2 then moved.1.observe side else moved.1

/-- The state once the pane opposite to `side` was moved to a position. -/
def moveOpposite (s : Session σ α) (side : Side) (x : α) : Session σ α :=
  echoed ((s.drive side).place side.other x) side.other

omit [Scalar α] in
@[simp] theorem driver_settled (s : Session σ α) (side : Side) (fraction : α) :
    (s.settled side fraction).coordinator.driver = s.coordinator.driver := by
  rw [settled, Coordinator.driver_setFraction, driver_rearm]

@[simp] theorem driver_echoed (moved : Session σ α × Bool) (side : Side) :
    (echoed moved side).coordinator.driver = moved.1.coordinator.driver := by
  unfold echoed
  split
  · exact driver_observe moved.1 side
  · rfl

@[simp] theorem driver_moveOpposite (s : Session σ α) (side : Side) (x : α) :
    (s.moveOpposite side x).coordinator.driver = some side := by
  rw [moveOpposite, driver_echoed, driver_place, driver_drive]

/-- The report of a pane that is driven is looked at and not followed. -/
theorem scrolled_of_driver_eq {s : Session σ α} {side : Side} (hsync : s.coordinator.sync = true)
    (hdriver : s.coordinator.driver = some side.other) : scrolled side s = s.observe side := by
  rw [scrolled, if_pos hsync]
  simp only [driver_observe, hdriver, dite_true]
  split <;> rfl

/-- While the panes are kept together, the report of the pane opposite to `side` is handled
with `side` driving. -/
theorem echo_eq_moveOpposite {s : Session σ α} (hsync : s.coordinator.sync = true) (side : Side)
    (x : α) :
    (if ((s.drive side).place side.other x).2 then
      scrolled side.other ((s.drive side).place side.other x).1
    else ((s.drive side).place side.other x).1) = s.moveOpposite side x := by
  unfold moveOpposite echoed
  split
  · apply scrolled_of_driver_eq
    · rw [sync_place, sync_drive, hsync]
    · rw [driver_place, driver_drive, Side.other_other]
  · rfl

/-- The report of a movement, with the report that it may cause in turn handled. -/
theorem scrolled_eq (side : Side) (s : Session σ α) :
    scrolled side s =
      if s.coordinator.sync then
        let seen := s.observe side
        if !seen.isSound then
          seen
        else if seen.coordinator.driver = some side.other then
          seen
        else
          match seen.metrics side, seen.metrics side.other with
          | .error e, _ => seen.fail e
          | .ok _, .error e => seen.fail e
          | .ok (some driving), .ok (some following) =>
              let moved := seen.moveOpposite side
                (Scalar.mul driving.fraction following.maxScroll)
              if !moved.isSound then moved else moved.settled side driving.fraction
          | _, _ => seen
      else
        s := by
  cases hsync : s.coordinator.sync with
  | false =>
      rw [scrolled, hsync]
      rfl
  | true =>
      rw [← sync_observe s side] at hsync
      rw [scrolled, ← sync_observe s side, hsync]
      simp only [if_true, dite_eq_ite, echo_eq_moveOpposite hsync]
      rfl

/-- A movement that is followed: the opposite pane is moved, and the timer starts over unless
this ended the step. -/
theorem scrolled_of_metrics {side : Side} {s : Session σ α} {driving following : Metrics α}
    (hsync : s.coordinator.sync = true) (hsound : (s.observe side).isSound = true)
    (hdriver : s.coordinator.driver ≠ some side.other)
    (hdriving : (s.observe side).metrics side = .ok (some driving))
    (hfollowing : (s.observe side).metrics side.other = .ok (some following)) :
    let moved := (s.observe side).moveOpposite side
      (Scalar.mul driving.fraction following.maxScroll)
    scrolled side s = if moved.isSound then moved.settled side driving.fraction else moved := by
  rw [← driver_observe s side] at hdriver
  rw [scrolled_eq, if_pos hsync]
  simp only [hsound, Bool.not_true, Bool.false_eq_true, if_false, hdriver, hdriving, hfollowing]
  cases ((s.observe side).moveOpposite side
    (Scalar.mul driving.fraction following.maxScroll)).isSound with
  | false => rfl
  | true => rfl

/-- By a movement that is followed the pane that reports it comes to drive. -/
theorem driver_scrolled_of_metrics {side : Side} {s : Session σ α}
    {driving following : Metrics α} (hsync : s.coordinator.sync = true)
    (hsound : (s.observe side).isSound = true) (hdriver : s.coordinator.driver ≠ some side.other)
    (hdriving : (s.observe side).metrics side = .ok (some driving))
    (hfollowing : (s.observe side).metrics side.other = .ok (some following)) :
    (scrolled side s).coordinator.driver = some side := by
  rw [scrolled_of_metrics hsync hsound hdriver hdriving hfollowing]
  split
  · rw [driver_settled, driver_moveOpposite]
  · rw [driver_moveOpposite]

/-- What the report of a movement leads to: nothing while the panes are not kept together;
a look at the reading position, which may end the step; or a movement of the opposite pane,
by which the pane that reports comes to drive. -/
theorem scrolled_cases (side : Side) (s : Session σ α) :
    (s.coordinator.sync = false ∧ scrolled side s = s) ∨
    (s.coordinator.sync = true ∧
      (scrolled side s = s.observe side ∨
        exists e, scrolled side s = (s.observe side).fail e)) ∨
    (s.coordinator.sync = true ∧ s.coordinator.driver ≠ some side.other ∧
      (scrolled side s).coordinator.driver = some side ∧ (s.observe side).isSound = true ∧
      exists driving following,
        (s.observe side).metrics side = .ok (some driving) ∧
        (s.observe side).metrics side.other = .ok (some following) ∧
        let moved := (s.observe side).moveOpposite side
          (Scalar.mul driving.fraction following.maxScroll)
        scrolled side s =
          if moved.isSound then moved.settled side driving.fraction else moved) := by
  cases hsync : s.coordinator.sync with
  | false =>
      apply Or.inl
      constructor
      · rfl
      · rw [scrolled, hsync]
        rfl
  | true =>
      apply Or.inr
      cases hsound : (s.observe side).isSound with
      | false =>
          apply Or.inl
          rw [scrolled_eq, if_pos hsync]
          simp only [hsound, Bool.not_false, if_true, true_and, true_or]
      | true =>
          by_cases hdriver : s.coordinator.driver = some side.other
          · exact Or.inl ⟨rfl, Or.inl (scrolled_of_driver_eq hsync hdriver)⟩
          · by_cases hseen : exists driving following,
                (s.observe side).metrics side = .ok (some driving) ∧
                (s.observe side).metrics side.other = .ok (some following)
            · rcases hseen with ⟨driving, following, hdriving, hfollowing⟩
              exact Or.inr ⟨rfl, hdriver,
                driver_scrolled_of_metrics hsync hsound hdriver hdriving hfollowing, rfl,
                driving, following, hdriving, hfollowing,
                scrolled_of_metrics hsync hsound hdriver hdriving hfollowing⟩
            · apply Or.inl
              rw [← driver_observe s side] at hdriver
              rw [scrolled_eq, if_pos hsync]
              simp only [hsound, Bool.not_true, Bool.false_eq_true, if_false, hdriver, true_and]
              split
              · next e _ => exact Or.inr ⟨e, rfl⟩
              · next e _ _ => exact Or.inr ⟨e, rfl⟩
              · next driving following hdriving hfollowing =>
                  exact absurd ⟨driving, following, hdriving, hfollowing⟩ hseen
              · exact Or.inl rfl

/-- Whichever pane drives after a movement was handled drove before, or is the pane that
moved while none drove. -/
theorem driver_scrolled (side : Side) (s : Session σ α) :
    (scrolled side s).coordinator.driver = s.coordinator.driver ∨
      (s.coordinator.driver = none ∧ (scrolled side s).coordinator.driver = some side) := by
  rcases scrolled_cases side s with ⟨-, h⟩ | ⟨-, h | ⟨e, h⟩⟩ | ⟨-, hdriver, hafter, -⟩
  · exact Or.inl (by rw [h])
  · exact Or.inl (by rw [h, driver_observe])
  · exact Or.inl (by rw [h, driver_fail, driver_observe])
  · rw [hafter]
    cases hbefore : s.coordinator.driver with
    | none => exact Or.inr ⟨rfl, rfl⟩
    | some driving =>
        rcases Side.eq_or_eq_other driving side with hsame | hopposite
        · exact Or.inl (by rw [hsame])
        · exact absurd (by rw [hbefore, hopposite]) hdriver

end Session
end Viewport
end Folio
