import Folio.Proofs.Viewport.Quiet

/-!
# The two timers

Of its timer a coordinator sees the task alone, and of the record nothing. What it does on a
bench is therefore what it does on the bare bench, where the timer is a direct one
(`bare_act`), unless a signal comes late. Hence a run leads to the same drivers over both
timers, and comes to rest over both if it does over one.
-/

namespace Folio
namespace Viewport

open Number

variable {α : Type}

namespace Bench

/-- A bench as a coordinator sees it: the task of the timer alone, and no record. -/
def bare (b : Bench α) : Bench α :=
  { b with timer := .direct b.timer.pending, record := [] }

@[simp] theorem bare_bare (b : Bench α) : b.bare.bare = b.bare := rfl

@[simp] theorem bare_note (b : Bench α) (d : Deed α) : (b.note d).bare = b.bare := rfl

@[simp] theorem bare_tell (b : Bench α) (d : Deed α) : (b.tell d).bare = b.bare := by
  unfold tell
  split <;> rfl

theorem bare_disarm (b : Bench α) : b.disarm.bare = b.bare.disarm.bare := by
  simp only [disarm, bare_note]
  simp only [bare, Timer.pending_disarm]

theorem bare_arm (b : Bench α) : b.arm.bare = b.bare.arm.bare := by
  have harmed : b.arm.bare = { b with timer := b.timer.arm }.bare := by
    unfold arm
    split <;> rfl
  rw [harmed]
  simp only [bare, arm, note, Timer.pending_arm]

variable [Scalar α]

theorem bare_place (b : Bench α) (side : Side) (x : α) :
    (b.place side x).1.bare = (b.bare.place side x).1.bare ∧
      (b.place side x).2 = (b.bare.place side x).2 := by
  have hpane : b.bare.pane side = b.pane side := by
    cases side <;> rfl
  unfold place
  rw [hpane]
  cases b.pane side with
  | none => exact ⟨rfl, rfl⟩
  | some p => cases side <;> exact ⟨rfl, rfl⟩

end Bench

namespace Session

/-!
## Bare sessions
-/

/-- A session on the bare bench. -/
def bare (s : Session (Bench α) α) : Session (Bench α) α :=
  { s with around := s.around.bare }

@[simp] theorem bare_bare (s : Session (Bench α) α) : s.bare.bare = s.bare := rfl

/-- What sessions share that are equal on the bare bench. -/
theorem eq_of_bare_eq {s t : Session (Bench α) α} (h : s.bare = t.bare) :
    s.coordinator = t.coordinator ∧ s.fault = t.fault := by
  constructor
  · exact congrArg (fun u => u.coordinator) h
  · exact congrArg (fun u => u.fault) h

theorem bare_fail (s : Session (Bench α) α) (e : ConversionError) :
    (s.fail e).bare = s.bare.fail e := rfl

variable [Scalar α]

@[simp] theorem metrics_bare (s : Session (Bench α) α) (side : Side) :
    s.bare.metrics side = s.metrics side := by
  cases side <;> rfl

theorem metrics_eq_of_bare_eq {s t : Session (Bench α) α} (h : s.bare = t.bare) (side : Side) :
    s.metrics side = t.metrics side := by
  rw [← metrics_bare s, h, metrics_bare]

theorem bare_setProgress (s : Session (Bench α) α) (x : α) :
    (s.setProgress x).bare = (s.bare.setProgress x).bare := by
  simp only [setProgress, bare, Surroundings.tellProgress, Bench.bare_tell, Bench.bare_bare]

theorem bare_setActive (s : Session (Bench α) α) (id : Value α) :
    (s.setActive id).bare = (s.bare.setActive id).bare := by
  have hactive : s.bare.coordinator.active = s.coordinator.active := rfl
  unfold setActive
  rw [hactive]
  split
  · rfl
  · simp only [bare, Surroundings.tellActive, Bench.bare_tell, Bench.bare_bare]

theorem bare_track (s : Session (Bench α) α) : s.track.bare = s.bare.track.bare := by
  have hheadings : s.bare.coordinator.headings = s.coordinator.headings := rfl
  unfold track
  rw [metrics_bare, hheadings]
  split
  · rfl
  · rfl
  · split
    · rw [bare_fail, bare_fail, bare_setProgress]
    · rw [bare_setActive, bare_setProgress, ← bare_setActive]
      rfl

theorem bare_observe (s : Session (Bench α) α) (side : Side) :
    (s.observe side).bare = (s.bare.observe side).bare := by
  cases side with
  | source => rfl
  | preview => exact bare_track s

theorem bare_applyZoom (s : Session (Bench α) α) :
    s.applyZoom.bare = s.bare.applyZoom.bare := by
  have hpreview : s.bare.around.preview = s.around.preview := rfl
  simp only [applyZoom, Surroundings.scalePage, hpreview]
  split <;> rfl

theorem bare_zoomTo (s : Session (Bench α) α) (x : α) :
    (s.zoomTo x).bare = (s.bare.zoomTo x).bare := by
  unfold zoomTo
  rw [bare_track, bare_applyZoom, ← bare_track]
  rfl

theorem bare_moveOpposite (s : Session (Bench α) α) (side : Side) (x : α) :
    (s.moveOpposite side x).bare = (s.bare.moveOpposite side x).bare := by
  have hplaced : ((s.drive side).place side.other x).1.bare =
      ((s.bare.drive side).place side.other x).1.bare :=
    congrArg (fun b => Session.mk (s.drive side).coordinator b s.fault)
      (Bench.bare_place s.around side.other x).1
  have hreports : ((s.drive side).place side.other x).2 =
      ((s.bare.drive side).place side.other x).2 :=
    (Bench.bare_place s.around side.other x).2
  unfold moveOpposite echoed
  rw [← hreports]
  split
  · rw [bare_observe, hplaced, ← bare_observe]
  · exact hplaced

theorem bare_settled (s : Session (Bench α) α) (side : Side) (fraction : α) :
    (s.settled side fraction).bare = (s.bare.settled side fraction).bare := by
  have harmed : (s.around.disarm.arm).bare = (s.around.bare.disarm.arm).bare := by
    rw [Bench.bare_arm, Bench.bare_disarm, ← Bench.bare_arm]
  exact congrArg (fun b => Session.mk (s.coordinator.setFraction side fraction) b s.fault) harmed

theorem bare_scrolled (side : Side) (s : Session (Bench α) α) :
    (scrolled side s).bare = (scrolled side s.bare).bare := by
  have hsync : s.bare.coordinator.sync = s.coordinator.sync := rfl
  have hseen := bare_observe s side
  rw [scrolled_eq, scrolled_eq side s.bare, hsync]
  generalize s.observe side = seen at hseen ⊢
  generalize s.bare.observe side = bareSeen at hseen ⊢
  rcases eq_of_bare_eq hseen with ⟨hcoordinator, hfault⟩
  have hsound : seen.isSound = bareSeen.isSound := by
    rw [isSound, isSound, hfault]
  have hmoved : forall x,
      (seen.moveOpposite side x).bare = (bareSeen.moveOpposite side x).bare := by
    intro x
    rw [bare_moveOpposite, hseen, ← bare_moveOpposite]
  have hended : forall x, (seen.moveOpposite side x).isSound =
      (bareSeen.moveOpposite side x).isSound := by
    intro x
    rw [isSound, isSound, (eq_of_bare_eq (hmoved x)).2]
  simp only [hsound, hended, hcoordinator, metrics_eq_of_bare_eq hseen]
  split
  · split
    · exact hseen
    · split
      · exact hseen
      · split
        · rw [bare_fail, bare_fail, hseen]
        · rw [bare_fail, bare_fail, hseen]
        · split
          · exact hmoved _
          · rw [bare_settled, hmoved, ← bare_settled]
        · exact hseen
  · rfl

theorem bare_setSync (s : Session (Bench α) α) (on : Bool) :
    (s.setSync on).bare = (s.bare.setSync on).bare := by
  cases on with
  | true => rfl
  | false =>
      exact congrArg (fun b => Session.mk _ b s.fault) (Bench.bare_disarm s.around)

theorem bare_setHeadings (s : Session (Bench α) α) (ps : Except ConversionError (Positions α))
    (top : Value α) : (s.setHeadings ps top).bare = (s.bare.setHeadings ps top).bare := by
  unfold setHeadings
  simp only
  split
  · rfl
  · rw [bare_track]
    rfl

theorem bare_setZoom (s : Session (Bench α) α) (v : Value α) :
    (s.setZoom v).bare = (s.bare.setZoom v).bare := by
  unfold setZoom
  split
  · rfl
  · exact bare_zoomTo s _

omit [Scalar α] in
/-- A timer with nothing left to do looks like a direct one. -/
theorem bare_afterTimer (s : Session (Bench α) α) {t : Timer} (ht : t.pending = false)
    (rings : Bool) :
    (s.afterTimer (t, rings)).bare = (s.bare.afterTimer (.direct false, rings)).bare := by
  have htimer : Bench.bare { s.around with timer := t } =
      Bench.bare { s.around.bare with timer := .direct false } := by
    simp only [Bench.bare, ht]
    rfl
  cases rings with
  | false => exact congrArg (fun b => Session.mk s.coordinator b s.fault) htimer
  | true => exact congrArg (fun b => Session.mk s.rest.coordinator b s.fault) htimer

omit [Scalar α] in
/-- A timer that is kept runs out as a direct one does. -/
theorem bare_runOut {s : Session (Bench α) α} (h : s.around.timer.IsKept) :
    s.runOut.bare = s.bare.runOut.bare := by
  rcases Timer.runOut_of_isKept h with ⟨hring, hdone⟩
  have hsplit : s.around.timer.runOut = (s.around.timer.runOut.1, s.around.timer.pending) := by
    rw [← hring]
  rw [runOut, hsplit]
  exact bare_afterTimer s hdone s.around.timer.pending

/-- Without a late signal an act does on a bench what it does on the bare one. -/
theorem bare_act {s : Session (Bench α) α} (h : s.around.timer.IsKept) {a : Act α}
    (ha : a ≠ .signal) : (s.act a).bare = (s.bare.act a).bare := by
  cases a with
  | movement side => exact bare_scrolled side _
  | runOut => exact bare_runOut (s := { s with fault := none }) h
  | signal => exact absurd rfl ha
  | sync on => exact bare_setSync _ on
  | zoom v => exact bare_setZoom _ v
  | zoomIn => exact bare_zoomTo _ _
  | zoomOut => exact bare_zoomTo _ _
  | resetZoom => exact bare_zoomTo _ _
  | applyZoom => exact bare_applyZoom _
  | track => exact bare_track _
  | headings items top => exact bare_setHeadings _ _ top
  | panes source preview echo => rfl

/-- Steady sessions that are equal on the bare bench stay so, without late signals. -/
theorem bare_run {s t : Session (Bench α) α} (hs : s.IsSteady) (ht : t.IsSteady)
    (h : s.bare = t.bare) {acts : List (Act α)} (hacts : ∀ a ∈ acts, a.IsReadable)
    (hsignal : .signal ∉ acts) : (s.run acts).bare = (t.run acts).bare := by
  induction acts generalizing s t with
  | nil => exact h
  | cons a acts ih =>
      have hreadable := hacts a List.mem_cons_self
      have hfirst : (s.act a).bare = (t.act a).bare := by
        have ha : a ≠ .signal := fun heq => hsignal (by rw [heq]; exact List.mem_cons_self)
        rw [bare_act hs.kept ha, h, ← bare_act ht.kept ha]
      exact ih (hs.act hreadable) (ht.act hreadable) hfirst
        (fun b hb => hacts b (List.mem_cons_of_mem a hb))
        (fun hmem => hsignal (List.mem_cons_of_mem a hmem))

/-!
## A driver comes to rest
-/

/-- A session at the start, on a bench with a timer. -/
def opened (lookahead : α) (sync : Bool) (b : Bench α) (t : Timer) : Session (Bench α) α :=
  ⟨.start lookahead sync, { b with timer := t }, none⟩

/-- The timers with nothing to do. -/
def idleTimers : List Timer :=
  [.direct false, .signalling false false]

theorem isSteady_opened (lookahead : α) (sync : Bool) (b : Bench α) {t : Timer}
    (ht : t ∈ idleTimers) : (opened lookahead sync b t).IsSteady := by
  have hidle : t.pending = false := by
    rcases List.mem_cons.mp ht with rfl | hlast
    · rfl
    · rw [List.mem_singleton.mp hlast]
      rfl
  exact IsSteady.of_rest hidle rfl ⟨[], rfl⟩

/-- No pane drives for ever. Over both timers, and whatever signals come late, a pane drives
exactly as long as the timer holds the task that lets it rest, and then the timer runs; none
drives while the panes are left alone. Without late signals both timers lead to the same
drivers all along. -/
theorem driver_at_rest_iff (lookahead : α) (sync : Bool) (b : Bench α) (acts : List (Act α))
    (hacts : ∀ a ∈ acts, a.IsReadable) :
    (∀ t ∈ idleTimers,
      let s := (opened lookahead sync b t).run acts
      (s.coordinator.driver ≠ none ↔ s.around.timer.pending = true) ∧
      (s.around.timer.pending = true -> s.around.timer.running = true) ∧
      (s.coordinator.sync = false ->
        s.coordinator.driver = none ∧ s.around.timer.pending = false)) ∧
    (.signal ∉ acts -> forall done, done <+: acts ->
      ((opened lookahead sync b (.direct false)).run done).coordinator.driver =
        ((opened lookahead sync b (.signalling false false)).run done).coordinator.driver) := by
  constructor
  · intro t ht
    have h := (isSteady_opened lookahead sync b ht).run hacts
    refine ⟨?_, h.kept, ?_⟩
    · rw [h.pending, Option.isSome_iff_ne_none]
    · intro hloose
      have hdriver := h.loose hloose
      refine ⟨hdriver, ?_⟩
      rw [h.pending, hdriver]
      rfl
  · intro hsignal done hdone
    have hdirect := isSteady_opened lookahead sync b (t := .direct false) (by simp [idleTimers])
    have hsignalling := isSteady_opened lookahead sync b (t := .signalling false false)
      (by simp [idleTimers])
    have hbare := bare_run hdirect hsignalling rfl
      (fun a ha => hacts a (hdone.subset ha)) (fun hmem => hsignal (hdone.subset hmem))
    rw [(eq_of_bare_eq hbare).1]

/-- Behind a heading that can be read, the source drives a preview that reports its movement,
and the timer holds its task. -/
theorem driver_at_rest_iff_of_two_panes :
    let b : Bench Float :=
      ⟨some ⟨⟨1, 2, 1⟩, none, true⟩, some ⟨⟨0, 2, 1⟩, none, true⟩, .direct false, true, true, []⟩
    let acts : List (Act Float) :=
      [.headings [.list [.text ['a'], .real 0]] (.real 0), .movement .source]
    (∀ a ∈ acts, a.IsReadable) ∧
      ((opened 100 true b (.signalling false false)).run acts).coordinator.driver =
        some .source ∧
      (∀ t ∈ idleTimers,
        let s := (opened 100 true b t).run acts
        (s.coordinator.driver ≠ none ↔ s.around.timer.pending = true) ∧
        (s.around.timer.pending = true -> s.around.timer.running = true) ∧
        (s.coordinator.sync = false ->
          s.coordinator.driver = none ∧ s.around.timer.pending = false)) ∧
      (.signal ∉ acts -> forall done, done <+: acts ->
        ((opened 100 true b (.direct false)).run done).coordinator.driver =
          ((opened 100 true b (.signalling false false)).run done).coordinator.driver) := by
  intro b acts
  have hacts : ∀ a ∈ acts, a.IsReadable := by
    intro a ha
    rcases List.mem_cons.mp ha with rfl | hlast
    · exact ⟨[(.text ['a'], 0)], rfl⟩
    · rw [List.mem_singleton.mp hlast]
      trivial
  exact ⟨hacts, by decide +kernel, driver_at_rest_iff 100 true b acts hacts⟩

/-- Behind a heading without a distance, the source drives a preview that reports its
movement, and no timer holds a task: the report ends the step. -/
theorem driver_stuck_of_unreadable_heading :
    let b : Bench Float :=
      ⟨some ⟨⟨1, 2, 1⟩, none, true⟩, some ⟨⟨0, 2, 1⟩, none, true⟩, .direct false, true, true, []⟩
    let acts : List (Act Float) :=
      [.headings [.list [.text ['a'], .null]] (.real 0), .movement .source]
    let s := (opened 100 true b (.direct false)).run acts
    ¬ (s.coordinator.driver ≠ none ↔ s.around.timer.pending = true) := by
  decide +kernel

end Session
end Viewport
end Folio
