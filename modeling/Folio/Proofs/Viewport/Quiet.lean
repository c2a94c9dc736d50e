import Folio.Proofs.Viewport.Run

/-!
# The quiet while

A pane that drives comes to rest. It drives exactly as long as the timer holds the task that
lets it rest, and a timer that holds the task runs (`IsSteady`). All that a coordinator does
keeps this, as long as the positions of the headings can be read. A position that cannot is
met when the pane that is moved reports this: behind the change of the driver, and before
the timer is started.
-/

namespace Folio
namespace Viewport

open Number

variable {α : Type}

/-!
## Timers
-/

namespace Timer

/-- Whether a task that is still to be done will be done. -/
def IsKept (t : Timer) : Prop :=
  t.pending = true -> t.running = true

theorem isKept_arm (t : Timer) : t.arm.IsKept := by
  cases t <;> exact fun _ => rfl

theorem isKept_of_done {t : Timer} (h : t.pending = false) : t.IsKept := by
  intro hpending
  rw [h] at hpending
  cases hpending

/-- A timer that is kept does its task when it runs out. -/
theorem runOut_of_isKept {t : Timer} (h : t.IsKept) :
    t.runOut.2 = t.pending ∧ t.runOut.1.pending = false := by
  cases t with
  | direct pending => exact ⟨rfl, rfl⟩
  | signalling running pending =>
      cases running with
      | true => exact ⟨rfl, rfl⟩
      | false =>
          cases pending with
          | false => exact ⟨rfl, rfl⟩
          | true => exact absurd (h rfl) Bool.false_ne_true

end Timer

namespace Session

/-!
## What is left alone

Apart from movements, the timer and the switch, an act leaves the driver and the timer alone.
-/

/-- Whether two sessions agree about the driver, the switch, the headings and the timer. -/
structure Agree (s t : Session (Bench α) α) : Prop where
  driver : t.coordinator.driver = s.coordinator.driver
  sync : t.coordinator.sync = s.coordinator.sync
  headings : t.coordinator.headings = s.coordinator.headings
  timer : t.around.timer = s.around.timer

theorem Agree.refl (s : Session (Bench α) α) : Agree s s :=
  ⟨rfl, rfl, rfl, rfl⟩

theorem Agree.trans {s t u : Session (Bench α) α} (hst : Agree s t) (htu : Agree t u) :
    Agree s u where
  driver := htu.driver.trans hst.driver
  sync := htu.sync.trans hst.sync
  headings := htu.headings.trans hst.headings
  timer := htu.timer.trans hst.timer

theorem agree_fail (s : Session (Bench α) α) (e : ConversionError) : Agree s (s.fail e) :=
  ⟨rfl, rfl, rfl, rfl⟩

theorem timer_tell (b : Bench α) (d : Deed α) : (b.tell d).timer = b.timer := by
  unfold Bench.tell
  split <;> rfl

variable [Scalar α]

theorem timer_place (b : Bench α) (side : Side) (x : α) :
    (b.place side x).1.timer = b.timer := by
  unfold Bench.place
  split
  · rfl
  · cases side <;> rfl

theorem agree_setProgress (s : Session (Bench α) α) (x : α) : Agree s (s.setProgress x) :=
  ⟨rfl, rfl, rfl, timer_tell s.around _⟩

theorem agree_setActive (s : Session (Bench α) α) (id : Value α) :
    Agree s (s.setActive id) := by
  unfold setActive
  split
  · exact Agree.refl s
  · exact ⟨rfl, rfl, rfl, timer_tell s.around _⟩

theorem agree_track (s : Session (Bench α) α) : Agree s s.track := by
  unfold track
  split
  · exact agree_fail s _
  · exact Agree.refl s
  · next m _ =>
      split
      · exact (agree_setProgress s _).trans (agree_fail _ _)
      · exact (agree_setProgress s _).trans (agree_setActive _ _)

theorem agree_observe (s : Session (Bench α) α) (side : Side) : Agree s (s.observe side) := by
  cases side with
  | source => exact Agree.refl s
  | preview => exact agree_track s

theorem agree_applyZoom (s : Session (Bench α) α) : Agree s s.applyZoom := by
  refine ⟨rfl, rfl, rfl, ?_⟩
  simp only [applyZoom, Surroundings.scalePage]
  split <;> rfl

theorem agree_zoomTo (s : Session (Bench α) α) (x : α) : Agree s (s.zoomTo x) := by
  have hset : Agree s { s with coordinator := { s.coordinator with zoom := clampZoom x } } :=
    ⟨rfl, rfl, rfl, rfl⟩
  exact (hset.trans (agree_applyZoom _)).trans (agree_track _)

theorem agree_setZoom (s : Session (Bench α) α) (v : Value α) : Agree s (s.setZoom v) := by
  unfold setZoom
  split
  · exact agree_fail s _
  · exact agree_zoomTo s _

/-!
## Headings that can be read

On a bench a step ends early only where the positions of the headings cannot be read.
-/

theorem fault_track {s : Session (Bench α) α}
    (h : exists ps, s.coordinator.headings = .ok ps) : s.track.fault = s.fault := by
  rcases h with ⟨ps, hps⟩
  unfold track
  split
  · next e he => cases he
  · rfl
  · rw [hps]
    simp only [setActive]
    split <;> rfl

theorem fault_observe {s : Session (Bench α) α}
    (h : exists ps, s.coordinator.headings = .ok ps) (side : Side) :
    (s.observe side).fault = s.fault := by
  cases side with
  | source => rfl
  | preview => exact fault_track h

/-- The movement of the opposite pane, with the report of it, does not end the step. -/
theorem fault_moveOpposite {s : Session (Bench α) α}
    (h : exists ps, s.coordinator.headings = .ok ps) (side : Side) (x : α) :
    (s.moveOpposite side x).fault = s.fault := by
  unfold moveOpposite echoed
  split
  · exact fault_observe (s := ((s.drive side).place side.other x).1) h side.other
  · rfl

/-- A pane that is moved may report this; all else but the driver is left alone. -/
theorem agree_moveOpposite (s : Session (Bench α) α) (side : Side) (x : α) :
    Agree (s.drive side) (s.moveOpposite side x) := by
  have hplaced : Agree (s.drive side) ((s.drive side).place side.other x).1 :=
    ⟨rfl, rfl, rfl, timer_place s.around side.other x⟩
  unfold moveOpposite echoed
  split
  · exact hplaced.trans (agree_observe _ side.other)
  · exact hplaced

/-!
## Steady sessions
-/

/-- Whether a pane drives exactly as long as the timer holds the task that lets it rest. -/
structure IsSteady (s : Session (Bench α) α) : Prop where
  pending : s.around.timer.pending = s.coordinator.driver.isSome
  kept : s.around.timer.IsKept
  loose : s.coordinator.sync = false -> s.coordinator.driver = none
  readable : exists ps, s.coordinator.headings = .ok ps

omit [Scalar α] in
theorem IsSteady.of_agree {s t : Session (Bench α) α} (hs : s.IsSteady) (h : Agree s t) :
    t.IsSteady where
  pending := by rw [h.timer, h.driver, hs.pending]
  kept := by
    rw [h.timer]
    exact hs.kept
  loose := by
    rw [h.sync, h.driver]
    exact hs.loose
  readable := by
    rw [h.headings]
    exact hs.readable

omit [Scalar α] in
/-- A session in which the timer has done what was to be done. -/
theorem IsSteady.of_rest {s : Session (Bench α) α} (hpending : s.around.timer.pending = false)
    (hdriver : s.coordinator.driver = none)
    (hreadable : exists ps, s.coordinator.headings = .ok ps) : s.IsSteady where
  pending := by rw [hpending, hdriver]; rfl
  kept := Timer.isKept_of_done hpending
  loose := fun _ => hdriver
  readable := hreadable

/-- A movement that was followed leaves its pane driving, and the timer armed. -/
theorem isSteady_settled {s : Session (Bench α) α} {side : Side} {x fraction : α}
    (hsync : s.coordinator.sync = true)
    (hreadable : exists ps, s.coordinator.headings = .ok ps) :
    ((s.moveOpposite side x).settled side fraction).IsSteady := by
  have hmoved := agree_moveOpposite s side x
  have htimer : ((s.moveOpposite side x).settled side fraction).around.timer =
      (s.moveOpposite side x).around.timer.disarm.arm := by
    simp only [settled, rearm, Surroundings.arm, Surroundings.disarm, Bench.arm]
    split <;> rfl
  constructor
  · rw [htimer, Timer.pending_arm, driver_settled, driver_moveOpposite]
    rfl
  · rw [htimer]
    exact Timer.isKept_arm _
  · intro hloose
    have hkept : ((s.moveOpposite side x).settled side fraction).coordinator.sync = true := by
      cases side <;> exact hmoved.sync.trans hsync
    rw [hkept] at hloose
    cases hloose
  · have hkept : ((s.moveOpposite side x).settled side fraction).coordinator.headings =
        s.coordinator.headings := by
      cases side <;> exact hmoved.headings
    rw [hkept]
    exact hreadable

theorem IsSteady.scrolled {s : Session (Bench α) α} (h : s.IsSteady) (hfault : s.fault = none)
    (side : Side) : (s.scrolled side).IsSteady := by
  have hseen := h.of_agree (agree_observe s side)
  rcases scrolled_cases side s with ⟨-, heq⟩ | ⟨-, heq | ⟨e, heq⟩⟩ |
    ⟨hsync, -, -, -, driving, following, -, -, heq⟩
  · rw [heq]
    exact h
  · rw [heq]
    exact hseen
  · rw [heq]
    exact hseen.of_agree (agree_fail _ e)
  · have hsound : ((s.observe side).moveOpposite side
        (Scalar.mul driving.fraction following.maxScroll)).isSound = true := by
      rw [isSound, fault_moveOpposite hseen.readable, fault_observe h.readable, hfault]
      rfl
    rw [heq, if_pos hsound]
    exact isSteady_settled (by rw [sync_observe, hsync]) hseen.readable

omit [Scalar α] in
/-- A timer that does its task, if there is one, lets no pane drive. -/
theorem IsSteady.afterTimer {s : Session (Bench α) α} (h : s.IsSteady) {ring : Timer × Bool}
    (hring : ring.2 = s.around.timer.pending) (hdone : ring.1.pending = false) :
    (s.afterTimer ring).IsSteady := by
  unfold Session.afterTimer
  rw [hring, h.pending]
  cases hdriver : s.coordinator.driver with
  | none => exact IsSteady.of_rest hdone hdriver h.readable
  | some side => exact IsSteady.of_rest hdone rfl h.readable

omit [Scalar α] in
theorem IsSteady.runOut {s : Session (Bench α) α} (h : s.IsSteady) : s.runOut.IsSteady :=
  h.afterTimer (Timer.runOut_of_isKept h.kept).1 (Timer.runOut_of_isKept h.kept).2

omit [Scalar α] in
theorem IsSteady.signal {s : Session (Bench α) α} (h : s.IsSteady) : s.signal.IsSteady :=
  h.afterTimer (Timer.signal_eq _).1 (Timer.signal_eq _).2

theorem IsSteady.setSync {s : Session (Bench α) α} (h : s.IsSteady) (on : Bool) :
    (s.setSync on).IsSteady := by
  cases on with
  | true => exact ⟨h.pending, h.kept, nofun, h.readable⟩
  | false => exact IsSteady.of_rest (Timer.pending_disarm _) rfl h.readable

theorem IsSteady.setHeadings {s : Session (Bench α) α} (h : s.IsSteady) (ps : Positions α)
    (top : Value α) : (s.setHeadings (.ok ps) top).IsSteady := by
  have hset : forall x, IsSteady { s with
      coordinator := { s.coordinator with headings := .ok ps, pageTop := x } } := by
    intro x
    exact ⟨h.pending, h.kept, h.loose, ps, rfl⟩
  unfold Session.setHeadings
  simp only
  split
  · exact (hset s.coordinator.pageTop).of_agree (agree_fail _ _)
  · next x _ => exact (hset x).of_agree (agree_track _)

end Session

/-!
## Steady runs
-/

/-- Whether the headings of an act are pairs of an id and a distance. -/
def Act.IsReadable [Scalar α] : Act α -> Prop
  | headings items _ => exists ps, positions items = .ok ps
  | _ => True

namespace Session

variable [Scalar α]

theorem IsSteady.act {s : Session (Bench α) α} (h : s.IsSteady) {a : Act α}
    (ha : a.IsReadable) : (s.act a).IsSteady := by
  have hstart : IsSteady { s with fault := none } := ⟨h.pending, h.kept, h.loose, h.readable⟩
  cases a with
  | movement side => exact hstart.scrolled rfl side
  | runOut => exact hstart.runOut
  | signal => exact hstart.signal
  | sync on => exact hstart.setSync on
  | zoom v => exact hstart.of_agree (agree_setZoom _ v)
  | zoomIn => exact hstart.of_agree (agree_zoomTo _ _)
  | zoomOut => exact hstart.of_agree (agree_zoomTo _ _)
  | resetZoom => exact hstart.of_agree (agree_zoomTo _ _)
  | applyZoom => exact hstart.of_agree (agree_applyZoom _)
  | track => exact hstart.of_agree (agree_track _)
  | headings items top =>
      rcases ha with ⟨ps, hps⟩
      rw [Session.act, hps]
      exact hstart.setHeadings ps top
  | panes source preview echo => exact ⟨h.pending, h.kept, h.loose, h.readable⟩

theorem IsSteady.run {s : Session (Bench α) α} (h : s.IsSteady) {acts : List (Act α)}
    (hacts : ∀ a ∈ acts, a.IsReadable) : (s.run acts).IsSteady := by
  induction acts generalizing s with
  | nil => exact h
  | cons a acts ih =>
      have hfirst := h.act (hacts a List.mem_cons_self)
      exact ih hfirst fun b hb => hacts b (List.mem_cons_of_mem a hb)

end Session
end Viewport
end Folio
