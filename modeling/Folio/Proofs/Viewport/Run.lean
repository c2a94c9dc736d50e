import Folio.Viewport.Bench
import Folio.Proofs.Viewport.Mirror

/-!
# Runs of a coordinator

A run is a list of acts: movements that the panes report, the timer, the calls of the host,
and whatever happens to the panes in between. A pane is moved by the coordinator only in
answer to a movement of the opposite one (`act_cases`), and then at most once, although the
pane that is moved reports this as well. A run that is driven all the time is driven by one
and the same pane (`run_of_driven`).
-/

namespace Folio
namespace Viewport

open Number

variable {α : Type}

/-!
## The panes that were moved
-/

/-- The pane that a deed moved, if it moved one. -/
def Deed.moved? : Deed α -> Option Side
  | placed side _ => some side
  | _ => none

namespace Bench

/-- The panes that the record tells to have been moved, the last one first. -/
def moves (b : Bench α) : List Side :=
  b.record.filterMap Deed.moved?

theorem moves_note_of_still (b : Bench α) {d : Deed α} (h : d.moved? = none) :
    (b.note d).moves = b.moves := by
  simp only [moves, note, List.filterMap_cons, h]

theorem moves_note_placed (b : Bench α) (side : Side) (x : α) :
    (b.note (.placed side x)).moves = side :: b.moves := rfl

@[simp] theorem moves_setPane (b : Bench α) (side : Side) (p : Pane α) :
    (b.setPane side p).moves = b.moves := by
  cases side <;> rfl

theorem moves_tell_of_still (b : Bench α) {d : Deed α} (h : d.moved? = none) :
    (b.tell d).moves = b.moves := by
  unfold tell
  split
  · exact moves_note_of_still b h
  · rfl

@[simp] theorem moves_disarm (b : Bench α) : b.disarm.moves = b.moves := rfl

@[simp] theorem moves_arm (b : Bench α) : b.arm.moves = b.moves := by
  unfold arm
  split <;> rfl

variable [Scalar α]

/-- A pane that reports where it stands can be moved. -/
theorem moves_place {b : Bench α} {side : Side} {m : Metrics α}
    (h : Surroundings.metrics b side = .ok (some m)) (x : α) :
    (b.place side x).1.moves = side :: b.moves := by
  unfold place
  split
  · next hpane =>
      simp [Surroundings.metrics, hpane] at h
  · rw [moves_setPane, moves_note_placed]

end Bench

namespace Session

/-- The panes that were moved, the last one first. -/
def moves (s : Session (Bench α) α) : List Side :=
  s.around.moves

@[simp] theorem moves_fail (s : Session (Bench α) α) (e : ConversionError) :
    (s.fail e).moves = s.moves := rfl

@[simp] theorem moves_drive (s : Session (Bench α) α) (side : Side) :
    (s.drive side).moves = s.moves := rfl

@[simp] theorem moves_rest (s : Session (Bench α) α) : s.rest.moves = s.moves := rfl

@[simp] theorem moves_afterTimer (s : Session (Bench α) α) (ring : Timer × Bool) :
    (s.afterTimer ring).moves = s.moves := by
  unfold afterTimer
  simp only
  split <;> rfl

variable [Scalar α]

@[simp] theorem moves_rearm (s : Session (Bench α) α) : s.rearm.moves = s.moves := by
  simp only [moves, rearm, Surroundings.arm, Surroundings.disarm, Bench.moves_arm,
    Bench.moves_disarm]

@[simp] theorem moves_settled (s : Session (Bench α) α) (side : Side) (fraction : α) :
    (s.settled side fraction).moves = s.moves :=
  moves_rearm s

@[simp] theorem moves_setProgress (s : Session (Bench α) α) (x : α) :
    (s.setProgress x).moves = s.moves :=
  Bench.moves_tell_of_still s.around rfl

@[simp] theorem moves_setActive (s : Session (Bench α) α) (id : Value α) :
    (s.setActive id).moves = s.moves := by
  unfold setActive
  split
  · rfl
  · exact Bench.moves_tell_of_still s.around rfl

@[simp] theorem moves_track (s : Session (Bench α) α) : s.track.moves = s.moves := by
  unfold track
  split
  · rfl
  · rfl
  · split
    · rw [moves_fail, moves_setProgress]
    · rw [moves_setActive, moves_setProgress]

@[simp] theorem moves_observe (s : Session (Bench α) α) (side : Side) :
    (s.observe side).moves = s.moves := by
  cases side with
  | source => rfl
  | preview => exact moves_track s

@[simp] theorem moves_applyZoom (s : Session (Bench α) α) : s.applyZoom.moves = s.moves := by
  unfold applyZoom
  simp only [moves, Surroundings.scalePage]
  split
  · exact Bench.moves_note_of_still _ rfl
  · rfl

@[simp] theorem moves_zoomTo (s : Session (Bench α) α) (x : α) :
    (s.zoomTo x).moves = s.moves := by
  rw [zoomTo, moves_track, moves_applyZoom]
  rfl

@[simp] theorem moves_setZoom (s : Session (Bench α) α) (v : Value α) :
    (s.setZoom v).moves = s.moves := by
  unfold setZoom
  split
  · rfl
  · exact moves_zoomTo s _

@[simp] theorem moves_setSync (s : Session (Bench α) α) (on : Bool) :
    (s.setSync on).moves = s.moves := by
  cases on <;> rfl

@[simp] theorem moves_setHeadings (s : Session (Bench α) α)
    (ps : Except ConversionError (Positions α)) (top : Value α) :
    (s.setHeadings ps top).moves = s.moves := by
  unfold setHeadings
  simp only
  split
  · rfl
  · rw [moves_track]
    rfl

@[simp] theorem moves_echoed (moved : Session (Bench α) α × Bool) (side : Side) :
    (echoed moved side).moves = moved.1.moves := by
  unfold echoed
  split
  · exact moves_observe moved.1 side
  · rfl

/-- The opposite pane is moved once, whether or not it reports this. -/
theorem moves_moveOpposite {s : Session (Bench α) α} {side : Side} {m : Metrics α}
    (h : s.metrics side.other = .ok (some m)) (x : α) :
    (s.moveOpposite side x).moves = side.other :: s.moves := by
  rw [moveOpposite, moves_echoed]
  exact Bench.moves_place h x

/-!
## One movement
-/

/-- Between two panes on the screen, the opposite one is moved, and once only. -/
theorem moves_scrolled_of_metrics {side : Side} {s : Session (Bench α) α}
    {driving following : Metrics α} (hsync : s.coordinator.sync = true)
    (hsound : (s.observe side).isSound = true) (hdriver : s.coordinator.driver ≠ some side.other)
    (hdriving : (s.observe side).metrics side = .ok (some driving))
    (hfollowing : (s.observe side).metrics side.other = .ok (some following)) :
    (scrolled side s).moves = side.other :: s.moves := by
  rw [scrolled_of_metrics hsync hsound hdriver hdriving hfollowing]
  have hmoves := moves_moveOpposite hfollowing
    (Scalar.mul driving.fraction following.maxScroll)
  rw [moves_observe] at hmoves
  split
  · rw [moves_settled, hmoves]
  · exact hmoves

/-- A movement that is handled moves no pane; or it moves the opposite one once, in a state
in which that one does not drive, and leaves the pane that was moved driving. -/
theorem moves_scrolled (side : Side) (s : Session (Bench α) α) :
    (scrolled side s).moves = s.moves ∨
    (s.coordinator.sync = true ∧ s.coordinator.driver ≠ some side.other ∧
      (scrolled side s).coordinator.driver = some side ∧
      (scrolled side s).moves = side.other :: s.moves) := by
  rcases scrolled_cases side s with ⟨-, h⟩ | ⟨-, h | ⟨e, h⟩⟩ |
    ⟨hsync, hdriver, hafter, hsound, driving, following, hdriving, hfollowing, -⟩
  · exact Or.inl (by rw [h])
  · exact Or.inl (by rw [h, moves_observe])
  · exact Or.inl (by rw [h, moves_fail, moves_observe])
  · exact Or.inr ⟨hsync, hdriver, hafter,
      moves_scrolled_of_metrics hsync hsound hdriver hdriving hfollowing⟩

end Session

/-!
## Acts
-/

/-- What can happen to a coordinator and its panes. -/
inductive Act (α : Type) where
  /-- A pane reports that it was moved. -/
  | movement (side : Side)
  /-- The timer runs out. -/
  | runOut
  /-- The timer gives its signal, late or once more. -/
  | signal
  | sync (on : Bool)
  | zoom (v : Value α)
  | zoomIn
  | zoomOut
  | resetZoom
  | applyZoom
  | track
  | headings (items : List (Value α)) (top : Value α)
  /-- Panes appear, vanish, get other contents or another behaviour, or are moved by hand. -/
  | panes (source preview : Option (Pane α)) (echo : Bool)

namespace Session

variable [Scalar α]

/-- The state after an act. What ended the act before does not end this one. -/
def act (s : Session (Bench α) α) (a : Act α) : Session (Bench α) α :=
  let s := { s with fault := none }
  match a with
  | .movement side => s.scrolled side
  | .runOut => s.runOut
  | .signal => s.signal
  | .sync on => s.setSync on
  | .zoom v => s.setZoom v
  | .zoomIn => s.zoomIn
  | .zoomOut => s.zoomOut
  | .resetZoom => s.resetZoom
  | .applyZoom => s.applyZoom
  | .track => s.track
  | .headings items top => s.setHeadings (positions items) top
  | .panes source preview echo =>
      { s with around := { s.around with source := source, preview := preview, echo := echo } }

/-- The state after a list of acts. -/
def run (s : Session (Bench α) α) (acts : List (Act α)) : Session (Bench α) α :=
  acts.foldl act s

@[simp] theorem run_nil (s : Session (Bench α) α) : s.run [] = s := rfl

@[simp] theorem run_cons (s : Session (Bench α) α) (a : Act α) (acts : List (Act α)) :
    s.run (a :: acts) = (s.act a).run acts := rfl

/-!
## Drivers and moves

Of all acts, only the movement of a pane lets a pane drive, and only while none drives.
-/

omit [Scalar α] in
theorem driver_afterTimer (s : Session (Bench α) α) (ring : Timer × Bool) :
    (s.afterTimer ring).coordinator.driver = s.coordinator.driver ∨
      (s.afterTimer ring).coordinator.driver = none := by
  unfold afterTimer
  cases ring.2 with
  | false => exact Or.inl rfl
  | true => exact Or.inr rfl

theorem driver_setSync (s : Session (Bench α) α) (on : Bool) :
    (s.setSync on).coordinator.driver = s.coordinator.driver ∨
      (s.setSync on).coordinator.driver = none := by
  cases on with
  | false => exact Or.inr rfl
  | true => exact Or.inl rfl

@[simp] theorem driver_zoomTo (s : Session (Bench α) α) (x : α) :
    (s.zoomTo x).coordinator.driver = s.coordinator.driver := by
  rw [zoomTo, driver_track]
  rfl

@[simp] theorem driver_setZoom (s : Session (Bench α) α) (v : Value α) :
    (s.setZoom v).coordinator.driver = s.coordinator.driver := by
  unfold setZoom
  split
  · rfl
  · exact driver_zoomTo s _

@[simp] theorem driver_setHeadings (s : Session (Bench α) α)
    (ps : Except ConversionError (Positions α)) (top : Value α) :
    (s.setHeadings ps top).coordinator.driver = s.coordinator.driver := by
  unfold setHeadings
  simp only
  split
  · rfl
  · rw [driver_track]

theorem driver_act (s : Session (Bench α) α) (a : Act α) :
    (s.act a).coordinator.driver = s.coordinator.driver ∨
    (s.act a).coordinator.driver = none ∨
    s.coordinator.driver = none := by
  cases a with
  | movement side =>
      rcases driver_scrolled side { s with fault := none } with h | ⟨h, -⟩
      · exact Or.inl h
      · exact Or.inr (Or.inr h)
  | runOut =>
      rcases driver_afterTimer { s with fault := none } s.around.timer.runOut with h | h
      · exact Or.inl h
      · exact Or.inr (Or.inl h)
  | signal =>
      rcases driver_afterTimer { s with fault := none } s.around.timer.signal with h | h
      · exact Or.inl h
      · exact Or.inr (Or.inl h)
  | sync on =>
      rcases driver_setSync { s with fault := none } on with h | h
      · exact Or.inl h
      · exact Or.inr (Or.inl h)
  | zoom v => exact Or.inl (driver_setZoom _ v)
  | zoomIn => exact Or.inl (driver_zoomTo _ _)
  | zoomOut => exact Or.inl (driver_zoomTo _ _)
  | resetZoom => exact Or.inl (driver_zoomTo _ _)
  | applyZoom => exact Or.inl rfl
  | track => exact Or.inl (driver_track _)
  | headings items top => exact Or.inl (driver_setHeadings _ _ top)
  | panes source preview echo => exact Or.inl rfl

/-- An act moves no pane, unless it is the movement of a pane while the panes are kept
together; then the opposite pane may be moved, once, and it is not the one that drives. -/
theorem act_cases (s : Session (Bench α) α) (a : Act α) :
    (s.act a).moves = s.moves ∨
    exists side, a = .movement side ∧ s.coordinator.sync = true ∧
      s.coordinator.driver ≠ some side.other ∧
      (s.act a).coordinator.driver = some side ∧ (s.act a).moves = side.other :: s.moves := by
  cases a with
  | movement side =>
      rcases moves_scrolled side { s with fault := none } with h | ⟨hsync, hdriver, hafter, h⟩
      · exact Or.inl h
      · exact Or.inr ⟨side, rfl, hsync, hdriver, hafter, h⟩
  | runOut => exact Or.inl (moves_afterTimer _ _)
  | signal => exact Or.inl (moves_afterTimer _ _)
  | sync on => exact Or.inl (moves_setSync _ on)
  | zoom v => exact Or.inl (moves_setZoom _ v)
  | zoomIn => exact Or.inl (moves_zoomTo _ _)
  | zoomOut => exact Or.inl (moves_zoomTo _ _)
  | resetZoom => exact Or.inl (moves_zoomTo _ _)
  | applyZoom => exact Or.inl (moves_applyZoom _)
  | track => exact Or.inl (moves_track _)
  | headings items top => exact Or.inl (moves_setHeadings _ _ top)
  | panes source preview echo => exact Or.inl rfl

/-!
## Runs
-/

/-- Whether some pane drives after each act of a run. -/
def IsDriven (s : Session (Bench α) α) (acts : List (Act α)) : Prop :=
  forall done, done ≠ [] -> done <+: acts -> (s.run done).coordinator.driver ≠ none

/-- Whether the panes are left alone before each act of a run. -/
def IsLoose (s : Session (Bench α) α) (acts : List (Act α)) : Prop :=
  forall done, done ≠ acts -> done <+: acts -> (s.run done).coordinator.sync = false

theorem IsDriven.of_prefix {s : Session (Bench α) α} {acts done : List (Act α)}
    (h : s.IsDriven acts) (hdone : done <+: acts) : s.IsDriven done := by
  intro front hne hfront
  exact h front hne (hfront.trans hdone)

theorem IsDriven.of_cons {s : Session (Bench α) α} {a : Act α} {acts : List (Act α)}
    (h : s.IsDriven (a :: acts)) :
    (s.act a).coordinator.driver ≠ none ∧ (s.act a).IsDriven acts := by
  constructor
  · exact h [a] (by simp) (by simp)
  · intro done _ hdone
    exact h (a :: done) (by simp) (List.cons_prefix_cons.mpr ⟨rfl, hdone⟩)

theorem IsLoose.of_cons {s : Session (Bench α) α} {a : Act α} {acts : List (Act α)}
    (h : s.IsLoose (a :: acts)) :
    s.coordinator.sync = false ∧ (s.act a).IsLoose acts := by
  constructor
  · exact h [] (by simp) List.nil_prefix
  · intro done hne hdone
    exact h (a :: done) (by simpa using hne) (List.cons_prefix_cons.mpr ⟨rfl, hdone⟩)

theorem moves_act_of_loose {s : Session (Bench α) α} (h : s.coordinator.sync = false)
    (a : Act α) : (s.act a).moves = s.moves := by
  rcases act_cases s a with hnone | ⟨_, _, hsync, _⟩
  · exact hnone
  · rw [h] at hsync
    cases hsync

theorem moves_run_of_loose {s : Session (Bench α) α} {acts : List (Act α)}
    (h : s.IsLoose acts) : (s.run acts).moves = s.moves := by
  induction acts generalizing s with
  | nil => rfl
  | cons a acts ih =>
      rcases h.of_cons with ⟨hsync, hrest⟩
      rw [run_cons, ih hrest, moves_act_of_loose hsync]

/-- While a pane drives, only the opposite one is moved. -/
theorem moves_act_of_driver {s : Session (Bench α) α} {a : Act α} {driving : Side}
    (h : (s.act a).coordinator.driver = some driving) :
    exists new, (s.act a).moves = new ++ s.moves ∧ ∀ side ∈ new, side = driving.other := by
  rcases act_cases s a with hnone | ⟨side, -, -, -, hafter, hone⟩
  · exact ⟨[], hnone, by simp⟩
  · rw [h] at hafter
    cases hafter
    exact ⟨[driving.other], hone, by simp⟩

theorem run_of_driver {s : Session (Bench α) α} {acts : List (Act α)} {driving : Side}
    (hdriver : s.coordinator.driver = some driving) (h : s.IsDriven acts) :
    (s.run acts).coordinator.driver = some driving ∧
      exists new, (s.run acts).moves = new ++ s.moves ∧
        ∀ side ∈ new, side = driving.other := by
  induction acts generalizing s with
  | nil => exact ⟨hdriver, [], rfl, by simp⟩
  | cons a acts ih =>
      rcases h.of_cons with ⟨hfirst, hrest⟩
      have hkept : (s.act a).coordinator.driver = some driving := by
        rcases driver_act s a with hsame | hnone | hidle
        · rw [hsame, hdriver]
        · exact absurd hnone hfirst
        · rw [hdriver] at hidle
          cases hidle
      rcases moves_act_of_driver hkept with ⟨first, hmoves, hside⟩
      rcases ih hkept hrest with ⟨hend, new, hnew, hsides⟩
      refine ⟨hend, new ++ first, ?_, ?_⟩
      · rw [run_cons, hnew, hmoves, List.append_assoc]
      · intro side hmem
        rcases List.mem_append.mp hmem with hmem | hmem
        · exact hsides side hmem
        · exact hside side hmem

/-- A run that is driven all the time is driven by one pane, and only the opposite pane is
moved in it. The first act of the run may be the one that lets the pane drive. -/
theorem run_of_driven {s : Session (Bench α) α} {acts : List (Act α)} (h : s.IsDriven acts) :
    exists driving, (forall done, done ≠ [] -> done <+: acts ->
        (s.run done).coordinator.driver = some driving) ∧
      exists new, (s.run acts).moves = new ++ s.moves ∧
        ∀ side ∈ new, side = driving.other := by
  cases acts with
  | nil =>
      refine ⟨.source, ?_, [], rfl, by simp⟩
      intro done hne hdone
      exact absurd (List.prefix_nil.mp hdone) hne
  | cons a acts =>
      rcases h.of_cons with ⟨hfirst, hrest⟩
      rcases Option.ne_none_iff_exists'.mp hfirst with ⟨driving, hdriving⟩
      rcases moves_act_of_driver hdriving with ⟨first, hmoves, hside⟩
      rcases run_of_driver hdriving hrest with ⟨-, new, hnew, hsides⟩
      refine ⟨driving, ?_, new ++ first, ?_, ?_⟩
      · intro done hne hdone
        rcases List.prefix_cons_iff.mp hdone with rfl | ⟨tail, rfl, htail⟩
        · exact absurd rfl hne
        · exact (run_of_driver hdriving (hrest.of_prefix htail)).1
      · rw [run_cons, hnew, hmoves, List.append_assoc]
      · intro side hmem
        rcases List.mem_append.mp hmem with hmem | hmem
        · exact hsides side hmem
        · exact hside side hmem

/-- Movements never feed back. The movement of a pane moves the opposite pane once at most,
with all that the panes report meanwhile; as long as a pane drives, the opposite pane alone
is moved; and no pane is moved while they are not kept together. -/
theorem moves_never_feed_back (s : Session (Bench α) α) (acts : List (Act α)) :
    (forall side, (s.act (.movement side)).moves = s.moves ∨
      (s.act (.movement side)).moves = side.other :: s.moves) ∧
    (s.IsDriven acts -> exists driving,
      (forall done, done ≠ [] -> done <+: acts ->
        (s.run done).coordinator.driver = some driving) ∧
      exists new, (s.run acts).moves = new ++ s.moves ∧
        ∀ side ∈ new, side = driving.other) ∧
    (s.IsLoose acts -> (s.run acts).moves = s.moves) := by
  refine ⟨?_, run_of_driven, moves_run_of_loose⟩
  intro side
  rcases act_cases s (.movement side) with hnone | ⟨_, hside, -, -, -, hone⟩
  · exact Or.inl hnone
  · cases hside
    exact Or.inr hone

/-- The source is moved beside a preview, and both report their movements. -/
theorem moves_never_feed_back_of_two_panes :
    let pane : Pane Float := ⟨⟨0, 2, 1⟩, none, true⟩
    let s : Session (Bench Float) Float :=
      ⟨.start 0 true, ⟨some pane, some pane, .direct false, true, false, []⟩, none⟩
    s.IsDriven [.movement .source] ∧ (s.run [.movement .source]).moves = [.preview] ∧
      exists driving,
        (forall done, done ≠ [] -> done <+: [.movement .source] ->
          (s.run done).coordinator.driver = some driving) ∧
        exists new, (s.run [.movement .source]).moves = new ++ s.moves ∧
          ∀ side ∈ new, side = driving.other := by
  intro pane s
  have hdriver : (s.act (.movement .source)).coordinator.driver = some .source :=
    driver_scrolled_of_metrics rfl rfl nofun rfl rfl
  have hdriven : s.IsDriven [.movement .source] := by
    intro done hne hdone
    rcases List.prefix_cons_iff.mp hdone with rfl | ⟨tail, rfl, htail⟩
    · exact absurd rfl hne
    · rw [List.prefix_nil.mp htail, run_cons, run_nil, hdriver]
      nofun
  refine ⟨hdriven, ?_, (moves_never_feed_back s _).2.1 hdriven⟩
  exact moves_scrolled_of_metrics rfl rfl nofun rfl rfl

end Session
end Viewport
end Folio
