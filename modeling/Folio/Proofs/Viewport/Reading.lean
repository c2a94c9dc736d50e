import Folio.Proofs.Viewport.Quiet

/-!
# The reading position

What a coordinator knows and tells of the reading position (`Reading`) changes by looks at the
preview alone, and by what the host sets: the zoom, the headings, the top of the page. An act
is thus told by what it sets and by what it sees of the preview (`reading_act`). Which pane
drives, the timer and the source do not matter to a look; the switch matters to a movement of
the preview, which is not looked at while the panes are left alone.
-/

namespace Folio
namespace Viewport

open Number

variable {α : Type}

/-- Whether a deed tells of the reading position. -/
def Deed.isTold : Deed α -> Bool
  | toldProgress _ => true
  | toldActive _ => true
  | _ => false

/-- The fraction that a deed tells. -/
def Deed.fraction? : Deed α -> Option α
  | toldProgress x => some x
  | _ => none

/-- The heading that a deed tells. -/
def Deed.active? : Deed α -> Option (Value α)
  | toldActive id => some id
  | _ => none

/-- A reading position, with what it is found by and what was told of it. -/
structure Reading (α : Type) where
  /-- What the coordinator knows, apart from what keeps the panes together. -/
  coordinator : Coordinator α
  listens : Bool
  /-- The deeds that told of it, the last one first. -/
  told : List (Deed α)

namespace Reading

/-- The fractions that were told, the last one first. -/
def fractions (r : Reading α) : List α :=
  r.told.filterMap Deed.fraction?

/-- The headings that were told, the last one first. -/
def actives (r : Reading α) : List (Value α) :=
  r.told.filterMap Deed.active?

/-- Tell of the reading position, if anybody listens. -/
def tell (r : Reading α) (d : Deed α) : Reading α :=
  if r.listens then { r with told := d :: r.told } else r

/-- Note how far the document has been read. -/
def progress (r : Reading α) (x : α) : Reading α :=
  { r with coordinator := { r.coordinator with previewFraction := x } }.tell (.toldProgress x)

variable [Scalar α]

/-- Note a heading as the one that is being read. -/
def heed (r : Reading α) (id : Value α) : Reading α :=
  if id.same r.coordinator.active then
    r
  else
    { r with coordinator := { r.coordinator with active := id } }.tell (.toldActive id)

/-- Look at the preview, if it shows anything. -/
def look (r : Reading α) : Option (Metrics α) -> Reading α
  | none => r
  | some m =>
      match r.coordinator.headings with
      | .error _ => r.progress m.fraction
      | .ok ps => (r.progress m.fraction).heed (r.coordinator.lastReached m.top ps)

/-- Take the zoom nearest to a number. -/
def zoomed (r : Reading α) (x : α) : Reading α :=
  { r with coordinator := { r.coordinator with zoom := clampZoom x } }

/-- What an act sets before it looks at the preview. -/
def set (r : Reading α) : Act α -> Reading α
  | .zoom v =>
      match v.toNumber with
      | .ok x => r.zoomed x
      | .error _ => r
  | .zoomIn => r.zoomed (Scalar.add r.coordinator.zoom zoomStep)
  | .zoomOut => r.zoomed (Scalar.sub r.coordinator.zoom zoomStep)
  | .resetZoom => r.zoomed Scalar.one
  | .headings items top =>
      let listed := { r with coordinator := { r.coordinator with headings := positions items } }
      match top.toNumber with
      | .ok x => { listed with coordinator := { listed.coordinator with pageTop := x } }
      | .error _ => listed
  | _ => r

omit [Scalar α] in
@[simp] theorem coordinator_tell (r : Reading α) (d : Deed α) :
    (r.tell d).coordinator = r.coordinator := by
  unfold tell
  split <;> rfl

omit [Scalar α] in
@[simp] theorem listens_tell (r : Reading α) (d : Deed α) : (r.tell d).listens = r.listens := by
  unfold tell
  split <;> rfl

omit [Scalar α] in
@[simp] theorem coordinator_progress (r : Reading α) (x : α) :
    (r.progress x).coordinator = { r.coordinator with previewFraction := x } := by
  rw [progress, coordinator_tell]

@[simp] theorem listens_heed (r : Reading α) (id : Value α) :
    (r.heed id).listens = r.listens := by
  unfold heed
  split
  · rfl
  · rw [listens_tell]

/-- Of what the coordinator knows, noting a heading changes that heading alone. -/
theorem coordinator_heed (r : Reading α) (id : Value α) :
    exists active, (r.heed id).coordinator = { r.coordinator with active := active } := by
  unfold heed
  split
  · exact ⟨r.coordinator.active, rfl⟩
  · exact ⟨id, coordinator_tell _ _⟩

@[simp] theorem listens_look (r : Reading α) (m : Option (Metrics α)) :
    (r.look m).listens = r.listens := by
  unfold look
  split
  · rfl
  · split
    · rw [progress, listens_tell]
    · rw [listens_heed, progress, listens_tell]

/-- What an act sets neither changes the heading that is being read nor is it told. -/
theorem set_cases (r : Reading α) (a : Act α) :
    (r.set a).listens = r.listens ∧ (r.set a).told = r.told ∧
      (r.set a).coordinator.active = r.coordinator.active := by
  cases a with
  | zoom v =>
      simp only [set]
      split <;> exact ⟨rfl, rfl, rfl⟩
  | headings items top =>
      simp only [set]
      split <;> exact ⟨rfl, rfl, rfl⟩
  | _ => exact ⟨rfl, rfl, rfl⟩

/-- Of what the coordinator knows, a look changes the fraction, which is the one at which the
preview stands, and the heading alone. -/
theorem coordinator_look_some (r : Reading α) (m : Metrics α) :
    exists active, (r.look (some m)).coordinator =
      { r.coordinator with previewFraction := m.fraction, active := active } := by
  simp only [look]
  split
  · exact ⟨r.coordinator.active, coordinator_progress r _⟩
  · next ps _ =>
      rcases coordinator_heed (r.progress m.fraction) (r.coordinator.lastReached m.top ps) with
        ⟨active, h⟩
      rw [coordinator_progress] at h
      exact ⟨active, h⟩

theorem coordinator_look (r : Reading α) (found : Option (Metrics α)) :
    exists x active, (r.look found).coordinator =
      { r.coordinator with previewFraction := x, active := active } := by
  cases found with
  | none => exact ⟨r.coordinator.previewFraction, r.coordinator.active, rfl⟩
  | some m => exact ⟨m.fraction, coordinator_look_some r m⟩

end Reading

namespace Bench

/-- What a pane shows. -/
def shown (b : Bench α) (side : Side) : Option (Metrics α) :=
  (b.pane side).bind fun p => if p.mounted then some p.metrics else none

/-- The deeds of the record that told of the reading position. -/
def told (b : Bench α) : List (Deed α) :=
  b.record.filter Deed.isTold

theorem told_note_of_isTold (b : Bench α) {d : Deed α} (h : d.isTold = true) :
    (b.note d).told = d :: b.told := by
  rw [told, note, List.filter_cons, if_pos h, told]

end Bench

/-- What a coordinator knows apart from what keeps the panes together. -/
def Coordinator.alone [Scalar α] (c : Coordinator α) : Coordinator α :=
  { c with driver := none, sync := false, sourceFraction := Scalar.zero }

namespace Session

/-- What a pane shows. -/
def shown (s : Session (Bench α) α) (side : Side) : Option (Metrics α) :=
  s.around.shown side

variable [Scalar α]

/-- The reading position of a session. -/
def reading (s : Session (Bench α) α) : Reading α :=
  ⟨s.coordinator.alone, s.around.listens, s.around.told⟩

theorem metrics_eq_shown (s : Session (Bench α) α) (side : Side) :
    s.metrics side = .ok (s.shown side) := rfl

/-!
## What does not matter to a reader
-/

@[simp] theorem reading_fail (s : Session (Bench α) α) (e : ConversionError) :
    (s.fail e).reading = s.reading := rfl

@[simp] theorem reading_drive (s : Session (Bench α) α) (side : Side) :
    (s.drive side).reading = s.reading := rfl

@[simp] theorem reading_afterTimer (s : Session (Bench α) α) (ring : Timer × Bool) :
    (s.afterTimer ring).reading = s.reading := by
  unfold afterTimer
  simp only
  split <;> rfl

@[simp] theorem reading_setSync (s : Session (Bench α) α) (on : Bool) :
    (s.setSync on).reading = s.reading := by
  cases on <;> rfl

@[simp] theorem reading_place (s : Session (Bench α) α) (side : Side) (x : α) :
    (s.place side x).1.reading = s.reading := by
  unfold place
  simp only [Surroundings.place, Bench.place]
  split
  · rfl
  · cases side <;> rfl

@[simp] theorem reading_rearm (s : Session (Bench α) α) : s.rearm.reading = s.reading := by
  simp only [rearm, Surroundings.arm, Surroundings.disarm, Bench.arm]
  split <;> rfl

@[simp] theorem reading_applyZoom (s : Session (Bench α) α) :
    s.applyZoom.reading = s.reading := by
  simp only [applyZoom, Surroundings.scalePage]
  split <;> rfl

/-- The fraction of the source is of no matter, and neither is one that is known already. -/
theorem reading_settled {s : Session (Bench α) α} {side : Side} {fraction : α}
    (h : side = .preview -> s.coordinator.previewFraction = fraction) :
    (s.settled side fraction).reading = s.reading := by
  have hfraction : (s.coordinator.setFraction side fraction).alone = s.coordinator.alone := by
    cases side with
    | source => rfl
    | preview =>
        rw [← h rfl]
        rfl
  calc (s.settled side fraction).reading
      = { s.rearm.reading with
          coordinator := (s.coordinator.setFraction side fraction).alone } := rfl
    _ = s.reading := by
        rw [reading_rearm, hfraction]
        rfl

/-!
## Looks
-/

theorem reading_tell (c : Coordinator α) (b : Bench α) (e : Option ConversionError) {d : Deed α}
    (hd : d.isTold = true) :
    reading ⟨c, b.tell d, e⟩ = (reading ⟨c, b, e⟩).tell d := by
  have hlistens : (reading ⟨c, b, e⟩).listens = b.listens := rfl
  unfold Reading.tell Bench.tell
  rw [hlistens]
  split
  · exact congrArg (Reading.mk c.alone b.listens) (Bench.told_note_of_isTold b hd)
  · rfl

theorem reading_setProgress (s : Session (Bench α) α) (x : α) :
    (s.setProgress x).reading = s.reading.progress x :=
  reading_tell _ _ _ rfl

theorem reading_setActive (s : Session (Bench α) α) (id : Value α) :
    (s.setActive id).reading = s.reading.heed id := by
  have hactive : s.reading.coordinator.active = s.coordinator.active := rfl
  unfold setActive Reading.heed
  rw [hactive]
  split
  · rfl
  · exact reading_tell _ _ _ rfl

theorem reading_track (s : Session (Bench α) α) :
    s.track.reading = s.reading.look (s.shown .preview) := by
  have hheadings : s.reading.coordinator.headings = s.coordinator.headings := rfl
  unfold track
  rw [metrics_eq_shown]
  cases s.shown .preview with
  | none => rfl
  | some m =>
      simp only [Reading.look, hheadings]
      cases s.coordinator.headings with
      | error e => rw [reading_fail, reading_setProgress]
      | ok ps =>
          rw [reading_setActive, reading_setProgress]
          rfl

/-!
## What stays on the panes
-/

omit [Scalar α] in
theorem exists_of_tell (b : Bench α) {d : Deed α} (hd : d.isTold = true) :
    exists ds, (∀ d ∈ ds, d.isTold = true) ∧
      b.tell d = { b with record := ds ++ b.record } := by
  unfold Bench.tell
  split
  · exact ⟨[d], by simp [hd], rfl⟩
  · exact ⟨[], nofun, rfl⟩

/-- Of the surroundings, a look changes the record alone, by what it tells. -/
theorem exists_of_track (s : Session (Bench α) α) :
    exists ds, (∀ d ∈ ds, d.isTold = true) ∧
      s.track.around = { s.around with record := ds ++ s.around.record } := by
  unfold track
  split
  · exact ⟨[], nofun, rfl⟩
  · exact ⟨[], nofun, rfl⟩
  · next m _ =>
      rcases exists_of_tell s.around (d := .toldProgress m.fraction) rfl with ⟨ds, hds, hprogress⟩
      split
      · exact ⟨ds, hds, hprogress⟩
      · next ps _ =>
          unfold setActive
          split
          · exact ⟨ds, hds, hprogress⟩
          · rcases exists_of_tell (s.setProgress m.fraction).around
              (d := .toldActive (s.coordinator.lastReached m.top ps)) rfl with ⟨es, hes, hactive⟩
            refine ⟨es ++ ds, List.forall_mem_append.2 ⟨hes, hds⟩, hactive.trans ?_⟩
            rw [List.append_assoc]
            exact congrArg (fun b : Bench α => { b with record := es ++ b.record }) hprogress

@[simp] theorem shown_track (s : Session (Bench α) α) (side : Side) :
    s.track.shown side = s.shown side := by
  rcases exists_of_track s with ⟨ds, -, h⟩
  rw [shown, h]
  cases side <;> rfl

@[simp] theorem shown_applyZoom (s : Session (Bench α) α) (side : Side) :
    s.applyZoom.shown side = s.shown side := by
  simp only [applyZoom, Surroundings.scalePage]
  split
  · cases side <;> rfl
  · rfl

@[simp] theorem shown_observe (s : Session (Bench α) α) (opposite side : Side) :
    (s.observe opposite).shown side = s.shown side := by
  cases opposite with
  | source => rfl
  | preview => exact shown_track s side

@[simp] theorem shown_settled (s : Session (Bench α) α) (driving side : Side) (x : α) :
    (s.settled driving x).shown side = s.shown side := by
  have harm : forall b : Bench α, b.arm.shown side = b.shown side := by
    intro b
    unfold Bench.arm
    cases side <;> split <;> rfl
  exact (harm s.around.disarm).trans (by cases side <;> rfl)

omit [Scalar α] in
theorem exists_pane_of_shown {b : Bench α} {side : Side} {m : Metrics α}
    (h : b.shown side = some m) :
    exists p, b.pane side = some p ∧ p.mounted = true ∧ p.metrics = m := by
  rcases Option.bind_eq_some_iff.1 h with ⟨p, hp, hshown⟩
  refine ⟨p, hp, ?_⟩
  split at hshown
  · next hmounted => exact ⟨hmounted, Option.some.inj hshown⟩
  · cases hshown

/-- A pane that is moved takes the position, and the other one stays where it is. -/
theorem shown_place {s : Session (Bench α) α} {moved : Side} {m : Metrics α}
    (h : s.shown moved = some m) (x : α) (side : Side) :
    (s.place moved x).1.shown side =
      if side = moved then some { m with top := x } else s.shown side := by
  rcases exists_pane_of_shown h with ⟨p, hp, hmounted, rfl⟩
  simp only [place, Surroundings.place, Bench.place, hp]
  cases moved <;> cases side <;>
    simp [shown, Bench.shown, Bench.setPane, Bench.pane, Bench.note, hmounted]

/-- Whether a pane reports that it was moved. -/
theorem reports_place {s : Session (Bench α) α} {moved : Side} {m : Metrics α}
    (h : s.shown moved = some m) (x : α) :
    (s.place moved x).2 = (s.around.echo && !Scalar.same x m.top) := by
  rcases exists_pane_of_shown h with ⟨p, hp, -, rfl⟩
  simp only [place, Surroundings.place, Bench.place, hp]

/-!
## Movements
-/

theorem shown_moveOpposite {s : Session (Bench α) α} {side : Side} {m : Metrics α}
    (h : s.shown side.other = some m) (x : α) (pane : Side) :
    (s.moveOpposite side x).shown pane =
      if pane = side.other then some { m with top := x } else s.shown pane := by
  have hplaced := shown_place (s := s.drive side) h x pane
  unfold moveOpposite echoed
  split
  · rw [shown_observe, hplaced]
    rfl
  · exact hplaced

/-- A movement that is followed puts the opposite pane at the fraction of the one that moved. -/
theorem shown_scrolled_of_shown {s : Session (Bench α) α} {side : Side}
    {driving following : Metrics α} (hsync : s.coordinator.sync = true)
    (hsound : (s.observe side).isSound = true) (hdriver : s.coordinator.driver ≠ some side.other)
    (hdriving : s.shown side = some driving) (hfollowing : s.shown side.other = some following)
    (pane : Side) :
    (s.scrolled side).shown pane =
      if pane = side.other then
        some { following with top := Scalar.mul driving.fraction following.maxScroll }
      else
        s.shown pane := by
  have hseen : forall pane, (s.observe side).metrics pane = .ok (s.shown pane) := by
    intro pane
    rw [metrics_eq_shown, shown_observe]
  have hmoved := shown_moveOpposite ((shown_observe s side side.other).trans hfollowing)
    (Scalar.mul driving.fraction following.maxScroll) pane
  rw [shown_observe] at hmoved
  rw [scrolled_of_metrics hsync hsound hdriver ((hseen side).trans (by rw [hdriving]))
    ((hseen side.other).trans (by rw [hfollowing]))]
  split
  · rw [shown_settled, hmoved]
  · exact hmoved

/-- A pane that is moved by hand stays where it was put. -/
theorem shown_scrolled_self (s : Session (Bench α) α) (side : Side) :
    (s.scrolled side).shown side = s.shown side := by
  have hself : side ≠ side.other := (Side.other_ne side).symm
  rcases scrolled_cases side s with ⟨-, h⟩ | ⟨-, h | ⟨e, h⟩⟩ |
    ⟨hsync, hdriver, -, hsound, driving, following, hdriving, hfollowing, -⟩
  · rw [h]
  · rw [h, shown_observe]
  · rw [h]
    exact shown_observe s side side
  · rw [metrics_eq_shown, shown_observe] at hdriving hfollowing
    rw [shown_scrolled_of_shown hsync hsound hdriver (Except.ok.inj hdriving)
      (Except.ok.inj hfollowing), if_neg hself]

/-- What the preview shows when it reports in the midst of a movement of the source, if it does:
the source is followed, and the preview was not where it is moved to. -/
def midst (s : Session (Bench α) α) : Option (Metrics α) :=
  if s.coordinator.sync = true ∧ s.coordinator.driver ≠ some .preview then
    match s.shown .source, s.shown .preview with
    | some driving, some following =>
        let position := Scalar.mul driving.fraction following.maxScroll
        if s.around.echo && !Scalar.same position following.top then
          some { following with top := position }
        else
          none
    | _, _ => none
  else
    none

/-- A preview that reports in the midst of a movement of the source was put at its fraction. -/
theorem exists_of_midst {s : Session (Bench α) α} {m : Metrics α} (h : s.midst = some m) :
    s.coordinator.sync = true ∧ s.coordinator.driver ≠ some .preview ∧
      exists driving following, s.shown .source = some driving ∧
        s.shown .preview = some following ∧
        { following with top := Scalar.mul driving.fraction following.maxScroll } = m := by
  unfold midst at h
  split at h
  · next hfollowed =>
      split at h
      · next driving following hdriving hfollowing =>
          refine ⟨hfollowed.1, hfollowed.2, driving, following, hdriving, hfollowing, ?_⟩
          simp only at h
          split at h
          · exact Option.some.inj h
          · cases h
      · cases h
  · cases h

theorem reading_moveOpposite_preview (s : Session (Bench α) α) (x : α) :
    (s.moveOpposite .preview x).reading = s.reading := by
  have hobserve : forall t : Session (Bench α) α, t.observe .source = t := fun _ => rfl
  unfold moveOpposite echoed
  simp only [Side.other, hobserve, ite_self, reading_place, reading_drive]

theorem reading_moveOpposite_source {s : Session (Bench α) α} {following : Metrics α}
    (h : s.shown .preview = some following) (x : α) :
    (s.moveOpposite .source x).reading =
      s.reading.look (if s.around.echo && !Scalar.same x following.top then
        some { following with top := x }
      else
        none) := by
  have hshown : (s.drive .source).shown .preview = some following := h
  have hmoved := shown_place hshown x .preview
  have hecho : (s.drive .source).around.echo = s.around.echo := rfl
  unfold moveOpposite echoed
  simp only [Side.other, reports_place hshown, hecho]
  split
  · show (((s.drive .source).place .preview x).1.track).reading = _
    rw [reading_track, hmoved, if_pos rfl, reading_place, reading_drive]
  · rw [reading_place, reading_drive]
    rfl

/-- A movement of the preview is looked at while the panes are kept together. -/
theorem reading_scrolled_preview (s : Session (Bench α) α) :
    (s.scrolled .preview).reading =
      if s.coordinator.sync then s.reading.look (s.shown .preview) else s.reading := by
  rcases scrolled_cases .preview s with ⟨hsync, h⟩ | ⟨hsync, h | ⟨e, h⟩⟩ |
    ⟨hsync, -, -, -, driving, following, hdriving, -, h⟩
  · rw [h, hsync]
    rfl
  · rw [h, hsync]
    exact reading_track s
  · rw [h, hsync, reading_fail]
    exact reading_track s
  · have hshown : s.shown .preview = some driving := by
      rw [metrics_eq_shown, shown_observe] at hdriving
      exact Except.ok.inj hdriving
    have hlooked : (s.observe .preview).reading = s.reading.look (s.shown .preview) :=
      reading_track s
    rw [h, hsync, if_pos rfl, ← hlooked]
    have hmoved : forall x,
        ((s.observe .preview).moveOpposite .preview x).reading = (s.observe .preview).reading :=
      reading_moveOpposite_preview _
    split
    · rw [reading_settled, hmoved]
      intro _
      have hfraction := congrArg (fun r => r.coordinator.previewFraction)
        ((hmoved (Scalar.mul driving.fraction following.maxScroll)).trans hlooked)
      rcases s.reading.coordinator_look_some driving with ⟨active, hlook⟩
      rw [hshown, hlook] at hfraction
      exact hfraction
    · exact hmoved _

/-- A movement of the source is looked at where the preview reports in its midst. -/
theorem reading_scrolled_source {s : Session (Bench α) α} (hsound : s.fault = none) :
    (s.scrolled .source).reading = s.reading.look s.midst := by
  have hobserve : s.observe .source = s := rfl
  have hcalm : (!s.isSound) = false := by rw [isSound, hsound]; rfl
  rw [scrolled_eq, midst]
  simp only [hobserve, hcalm, metrics_eq_shown, Side.other, Bool.false_eq_true, if_false]
  by_cases hsync : s.coordinator.sync = true
  · by_cases hdriver : s.coordinator.driver = some .preview
    · simp only [hsync, hdriver, ne_eq, not_true_eq_false, and_false, if_true, if_false]
      rfl
    · simp only [hsync, hdriver, ne_eq, not_false_eq_true, and_true, if_true, if_false]
      cases hsource : s.shown .source with
      | none => cases s.shown .preview <;> rfl
      | some driving =>
          cases hpreview : s.shown .preview with
          | none => rfl
          | some following =>
              have hmoved := reading_moveOpposite_source hpreview
                (Scalar.mul driving.fraction following.maxScroll)
              simp only
              split
              · exact hmoved
              · refine (reading_settled ?_).trans hmoved
                intro h
                cases h
  · simp only [hsync, Bool.false_eq_true, false_and, if_false]
    rfl

theorem reading_zoomTo (s : Session (Bench α) α) (x : α) :
    (s.zoomTo x).reading = (s.reading.zoomed x).look (s.shown .preview) := by
  rw [zoomTo, reading_track, shown_applyZoom, reading_applyZoom]
  rfl

/-!
## Acts
-/

/-- What the coordinator sees of the preview in an act. -/
def sight (s : Session (Bench α) α) : Act α -> Option (Metrics α)
  | .movement .source => s.midst
  | .movement .preview => if s.coordinator.sync then s.shown .preview else none
  | .zoom v =>
      match (v.toNumber : Except ConversionError α) with
      | .ok _ => s.shown .preview
      | .error _ => none
  | .headings _ top =>
      match (top.toNumber : Except ConversionError α) with
      | .ok _ => s.shown .preview
      | .error _ => none
  | .zoomIn => s.shown .preview
  | .zoomOut => s.shown .preview
  | .resetZoom => s.shown .preview
  | .track => s.shown .preview
  | _ => none

/-- An act changes the reading position by what it sets and then by what it sees. -/
theorem reading_act (s : Session (Bench α) α) (a : Act α) :
    (s.act a).reading = (s.reading.set a).look (s.sight a) := by
  cases a with
  | movement side =>
      cases side with
      | source => exact reading_scrolled_source rfl
      | preview =>
          refine (reading_scrolled_preview { s with fault := none }).trans ?_
          simp only [sight, Reading.set]
          split <;> rfl
  | runOut => exact reading_afterTimer _ _
  | signal => exact reading_afterTimer _ _
  | sync on => exact reading_setSync _ on
  | zoom v =>
      simp only [Session.act, setZoom, sight, Reading.set]
      cases (v.toNumber : Except ConversionError α) with
      | error e => rfl
      | ok x => exact reading_zoomTo _ x
  | zoomIn => exact reading_zoomTo _ _
  | zoomOut => exact reading_zoomTo _ _
  | resetZoom => exact reading_zoomTo _ _
  | applyZoom => exact reading_applyZoom _
  | track => exact reading_track _
  | headings items top =>
      simp only [Session.act, setHeadings, sight, Reading.set]
      cases (top.toNumber : Except ConversionError α) with
      | error e => rfl
      | ok x => exact reading_track _
  | panes source preview echo => rfl

/-- Of what the coordinator knows, an act changes what it sets, the fraction and the heading. -/
theorem coordinator_act (s : Session (Bench α) α) (a : Act α) :
    exists x active, (s.act a).coordinator.alone =
      { (s.reading.set a).coordinator with previewFraction := x, active := active } := by
  rcases (s.reading.set a).coordinator_look (s.sight a) with ⟨x, active, h⟩
  exact ⟨x, active, (congrArg Reading.coordinator (reading_act s a)).trans h⟩

theorem listens_act (s : Session (Bench α) α) (a : Act α) :
    (s.act a).around.listens = s.around.listens := by
  have hact := congrArg Reading.listens (reading_act s a)
  rw [Reading.listens_look, (s.reading.set_cases a).1] at hact
  exact hact

end Session
end Viewport
end Folio
