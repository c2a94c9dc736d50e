import Folio.Proofs.Window.Course

/-!
# Looks at the page

The coordinator looks at the page when the page was scrolled and when its report has been taken:
then it remembers the fraction that it finds (`Looks`). A page that was scrolled may lead the
editor as well (`Leads`), which sets the scroll bar of the editor; nothing else that a look does
moves a pane.
-/

namespace Folio

namespace Viewport.Session

open Number

variable {σ α : Type} [Surroundings σ α] [Scalar α]

/-- The fraction that a look at the page finds; where there is nothing to look at it is the one
that is remembered. -/
def seen (s : Session σ α) : α :=
  match s.metrics .preview with
  | .ok (some m) => m.fraction
  | _ => s.coordinator.previewFraction

end Viewport.Session

namespace Window

open Number Viewport

variable {α : Type} [Scalar α]

/-- Whether a session looked at the page. The editor may have been moved. -/
structure Looks (s t : Session (Screen α) α) : Prop where
  sync : t.coordinator.sync = s.coordinator.sync
  driver : t.coordinator.driver = some .source ↔ s.coordinator.driver = some .source
  fraction : t.coordinator.previewFraction = s.seen
  view : t.around.view = s.around.view

/-- Whether the page leads the editor when it is scrolled: the panes are kept together, the editor
does not drive, and there is a line for it to be moved to. -/
def Leads (s : Session (Screen α) α) : Prop :=
  s.coordinator.sync = true ∧ s.coordinator.driver ≠ some .source ∧
    exists page editor n, s.metrics .preview = .ok (some page) ∧
      s.metrics .source = .ok (some editor) ∧
      (Scalar.exact (Scalar.mul page.fraction editor.maxScroll)).round = .whole n

theorem metrics_source_congr {s t : Session (Screen α) α} (hbar : t.around.bar = s.around.bar) :
    t.metrics .source = s.metrics .source := by
  simp only [Session.metrics, Surroundings.metrics, Screen.editorMetrics, hbar]

theorem metrics_congr {s t : Session (Screen α) α} (hbar : t.around.bar = s.around.bar)
    (hview : t.around.view = s.around.view) (side : Side) : t.metrics side = s.metrics side := by
  cases side with
  | source => exact metrics_source_congr hbar
  | preview =>
      simp only [Session.metrics, Surroundings.metrics, Screen.viewMetrics, hview]

namespace Looks

variable {s t u : Session (Screen α) α}

theorem sound (h : Looks s t) : Looks s { t with fault := none } :=
  ⟨h.sync, h.driver, h.fraction, h.view⟩

theorem of_speaks (h : Speaks s t) (k : Looks t u) : Looks s u where
  sync := by rw [k.sync, h.coordinator]
  driver := by rw [k.driver, h.coordinator]
  fraction := by
    have hmetrics := metrics_congr h.screen.bar h.screen.view .preview
    rw [k.fraction, Session.seen, Session.seen, hmetrics, h.coordinator]
  view := k.view.trans h.screen.view

theorem speaks (h : Looks s t) (k : Speaks t u) : Looks s u where
  sync := by rw [k.coordinator, h.sync]
  driver := by rw [k.coordinator, h.driver]
  fraction := by rw [k.coordinator, h.fraction]
  view := k.screen.view.trans h.view

end Looks

/-!
## Looking
-/

theorem rests_setActive (s : Session (Screen α) α) (id : Value α) :
    Screen.Rests s.around (s.setActive id).around := by
  unfold Session.setActive
  split
  · exact Screen.Rests.refl _
  · have hlabel : Screen.Rests s.around
        { s.around with sectionLabel := s.around.titleOf id.text? } := ⟨rfl, rfl, rfl⟩
    exact hlabel.trans (Screen.rests_run _ _)

theorem fraction_setActive (s : Session (Screen α) α) (id : Value α) :
    (s.setActive id).coordinator.previewFraction = s.coordinator.previewFraction := by
  unfold Session.setActive
  split <;> rfl

theorem rests_track (s : Session (Screen α) α) : Screen.Rests s.around s.track.around := by
  unfold Session.track
  split
  · exact Screen.Rests.refl _
  · exact Screen.Rests.refl _
  · next m _ =>
      have hprogress : Screen.Rests s.around (s.setProgress m.fraction).around := ⟨rfl, rfl, rfl⟩
      split
      · exact hprogress
      · exact hprogress.trans (rests_setActive _ _)

theorem fraction_track (s : Session (Screen α) α) :
    s.track.coordinator.previewFraction = s.seen := by
  unfold Session.track Session.seen
  split
  · next hmetrics =>
      rw [hmetrics]
      rfl
  · next hmetrics => rw [hmetrics]
  · next m hmetrics =>
      rw [hmetrics]
      split
      · rfl
      · exact fraction_setActive _ _

theorem looks_track (s : Session (Screen α) α) : Looks s s.track where
  sync := Session.sync_track s
  driver := by rw [Session.driver_track]
  fraction := fraction_track s
  view := (rests_track s).view

theorem metrics_track (s : Session (Screen α) α) (side : Side) :
    s.track.metrics side = s.metrics side :=
  metrics_congr (rests_track s).bar (rests_track s).view side

/-- A look at a page that can be measured is without fault, if the headings are known. -/
theorem fault_track {s : Session (Screen α) α} (hsound : s.fault = none)
    (hnamed : IsNamed s.coordinator) {found : Option (Metrics α)}
    (hfound : s.metrics .preview = .ok found) : s.track.fault = none := by
  rcases hnamed.headings with ⟨ps, hps, -⟩
  unfold Session.track
  rw [hfound]
  cases found with
  | none => exact hsound
  | some m =>
      simp only [hps]
      unfold Session.setActive
      split <;> exact hsound

/-!
## Leading
-/

theorem moveOpposite_preview (s : Session (Screen α) α) (x : α) :
    s.moveOpposite .preview x = ((s.drive .preview).place .source x).1 := by
  unfold Session.moveOpposite Session.echoed
  split <;> rfl

theorem isShown_of_metrics {s : Session (Screen α) α} {editor : Metrics α}
    (h : s.metrics .source = .ok (some editor)) : s.around.bar.isShown = true := by
  simp only [Session.metrics, Surroundings.metrics, Screen.editorMetrics] at h
  split at h
  · next hshown => exact hshown
  · cases h

theorem place_source_of_whole {s : Session (Screen α) α} {editor : Metrics α} {x : α} {n : Int}
    (heditor : s.metrics .source = .ok (some editor)) (hx : (Scalar.exact x).round = .whole n) :
    (s.place .source x).1 = { s with around := (s.around.setBar (.whole n)).1 } := by
  simp only [Session.place, Surroundings.place, Screen.placeEditor, isShown_of_metrics heditor, hx,
    if_true]

theorem place_source_of_not_whole {s : Session (Screen α) α} {editor : Metrics α} {x : α}
    (heditor : s.metrics .source = .ok (some editor))
    (hx : forall n, (Scalar.exact x).round ≠ .whole n) :
    exists e, (s.place .source x).1 = s.fail e := by
  simp only [Session.place, Surroundings.place, Screen.placeEditor, isShown_of_metrics heditor,
    if_true]
  cases hround : (Scalar.exact x).round with
  | whole n => exact absurd hround (hx n)
  | nan => exact ⟨_, rfl⟩
  | infinite => exact ⟨_, rfl⟩

theorem preview_ne_source : some Side.preview ≠ some Side.source := by
  decide

/-- A page that leads sets the scroll bar of the editor. -/
theorem scrolled_of_leads {s : Session (Screen α) α} (hsound : s.fault = none)
    (hnamed : IsNamed s.coordinator) (h : Leads s) :
    Looks s (Session.scrolled .preview s) ∧
      exists n, (Session.scrolled .preview s).around.barSets = .whole n :: s.around.barSets := by
  rcases h with ⟨hsync, hdriver, page, editor, n, hpage, heditor, hround⟩
  have htracked : (s.observe .preview).isSound = true := by
    rw [Session.isSound, Session.observe, fault_track hsound hnamed hpage]
    rfl
  have hmoved : s.track.moveOpposite .preview (Scalar.mul page.fraction editor.maxScroll) =
      { s.track.drive .preview with around := (s.track.around.setBar (.whole n)).1 } := by
    rw [moveOpposite_preview]
    have heditor : (s.track.drive .preview).metrics .source = .ok (some editor) :=
      (metrics_track s .source).trans heditor
    exact place_source_of_whole heditor hround
  have hscrolled : Session.scrolled .preview s =
      Session.settled
        { s.track.drive .preview with around := (s.track.around.setBar (.whole n)).1 }
        .preview page.fraction := by
    rw [Session.scrolled_of_metrics hsync htracked hdriver
      ((metrics_track s .preview).trans hpage) ((metrics_track s .source).trans heditor)]
    simp only [Session.observe, hmoved]
    exact if_pos htracked
  have hlooks := looks_track s
  rw [hscrolled]
  constructor
  · constructor
    · exact hlooks.sync
    · exact ⟨fun h => absurd h preview_ne_source, fun h => absurd h hdriver⟩
    · rw [Session.seen, hpage]
      rfl
    · exact hlooks.view
  · exact ⟨n, congrArg (List.cons _) (rests_track s).barSets⟩

/-- A page that does not lead is looked at, and leaves the editor where it is. -/
theorem scrolled_of_not_leads {s : Session (Screen α) α} (hsync : s.coordinator.sync = true)
    (h : ¬ Leads s) :
    Looks s (Session.scrolled .preview s) ∧
      Screen.Rests s.around (Session.scrolled .preview s).around := by
  have hlooks := looks_track s
  have hrests := rests_track s
  rcases Session.scrolled_cases .preview s with ⟨hoff, -⟩ | ⟨-, heq | ⟨e, heq⟩⟩ |
    ⟨-, hdriver, -, -, page, editor, hpage, heditor, heq⟩
  · rw [hsync] at hoff
    cases hoff
  · rw [heq]
    exact ⟨hlooks, hrests⟩
  · rw [heq]
    exact ⟨⟨hlooks.sync, hlooks.driver, hlooks.fraction, hlooks.view⟩, hrests⟩
  · -- both panes report where they stand, so there is no line for the editor
    have hround : forall n,
        (Scalar.exact (Scalar.mul page.fraction editor.maxScroll)).round ≠ .whole n := by
      intro n hn
      exact h ⟨hsync, hdriver, page, editor, n, (metrics_track s .preview).symm.trans hpage,
        (metrics_track s .source).symm.trans heditor, hn⟩
    rcases place_source_of_not_whole (s := s.track.drive .preview) heditor hround with ⟨e, hplaced⟩
    have hfailed : Session.scrolled .preview s = (s.track.drive .preview).fail e := by
      rw [heq]
      simp only [Session.observe, moveOpposite_preview, hplaced]
      rfl
    rw [hfailed]
    refine ⟨⟨hlooks.sync, ⟨fun h => absurd h preview_ne_source, fun h => absurd h hdriver⟩, hlooks.fraction,
      hlooks.view⟩, hrests⟩

/-!
## Looks of a window
-/

/-- Whether the coordinator of a window knows the headings, and is without fault. -/
structure State.IsReady (w : State α) : Prop where
  named : IsNamed w.session.coordinator
  sound : w.session.fault = none

/-- The window with its page at a position. -/
def State.pageAt (w : State α) (top : Amount α) : State α :=
  w.onScreen fun s => { s with view := { s.view with top := top } }

namespace State

variable {w : State α}

omit [Scalar α] in
theorem IsReady.pageAt (h : w.IsReady) (top : Amount α) : (w.pageAt top).IsReady :=
  ⟨h.named, h.sound⟩

theorem scrollPage_of_leads (hw : w.IsReady) {top : Amount α}
    (h : Leads (w.pageAt top).session) :
    Looks (w.pageAt top).session (w.scrollPage top).session ∧
      exists n, (w.scrollPage top).screen.barSets = .whole n :: w.screen.barSets := by
  rcases scrolled_of_leads (hw.pageAt top).sound (hw.pageAt top).named h with ⟨hlooks, n, hset⟩
  have hscrolled : (w.scrollPage top).session =
      { Session.scrolled .preview (w.pageAt top).session with fault := none } := by
    rw [← session_onSession]
    exact congrArg State.session (if_pos h.1)
  rw [State.screen, hscrolled]
  exact ⟨hlooks.sound, n, hset⟩

theorem scrollPage_of_not_leads {top : Amount α} (h : ¬ Leads (w.pageAt top).session) :
    Looks (w.pageAt top).session (w.scrollPage top).session ∧
      Screen.Rests (w.pageAt top).screen (w.scrollPage top).screen := by
  cases hsync : (w.pageAt top).session.coordinator.sync with
  | true =>
      rcases scrolled_of_not_leads hsync h with ⟨hlooks, hrests⟩
      have hscrolled : (w.scrollPage top).session =
          { Session.scrolled .preview (w.pageAt top).session with fault := none } := by
        rw [← session_onSession]
        exact congrArg State.session (if_pos hsync)
      rw [State.screen, State.screen, hscrolled]
      exact ⟨hlooks.sound, hrests⟩
  | false =>
      have htracked : (w.scrollPage top).session =
          { (w.pageAt top).session.track with fault := none } := by
        rw [← session_onSession]
        refine congrArg State.session (if_neg ?_)
        exact ne_true_of_eq_false hsync
      rw [State.screen, State.screen, htracked]
      exact ⟨(looks_track _).sound, rests_track _⟩

end State

/-!
## Reports
-/

/-- The fraction that an event asked the page to scroll to. -/
def Event.restored? : Event α -> Option α
  | script (.scrollToFraction x) => some x
  | _ => none

omit [Scalar α] in
/-- The fractions that the page was asked to scroll to, the last one first. -/
def Screen.restores (s : Screen α) : List α :=
  s.record.filterMap Event.restored?

omit [Scalar α] in
theorem Screen.restores_run (s : Screen α) {script : Script α}
    (h : (Event.script script).restored? = none) : (s.run script).restores = s.restores := by
  unfold run
  split
  · simp only [restores, note, List.filterMap_cons, h]
  · rfl

theorem restores_setActive (s : Session (Screen α) α) (id : Value α) :
    (s.setActive id).around.restores = s.around.restores := by
  unfold Session.setActive
  split
  · rfl
  · exact Screen.restores_run _ rfl

theorem restores_track (s : Session (Screen α) α) :
    s.track.around.restores = s.around.restores := by
  unfold Session.track
  split
  · rfl
  · rfl
  · split
    · rfl
    · exact restores_setActive _ _

namespace State

/-- The window when it has taken the headings of a report. -/
def withHeadings (w : State α) (ps : Positions α) (top : α) : State α :=
  w.onSession (·.setHeadings (.ok ps) (.real top))

variable (w : State α) (height : Option α) (ps : Positions α) (top : α)

omit [Scalar α] in
theorem fault_onSession {f : Session (Screen α) α -> Session (Screen α) α}
    (h : (f w.session).fault = none) : (w.onSession f).fault = w.fault := by
  unfold onSession
  simp only [h]

omit [Scalar α] in
theorem andThen_of_fault_eq_none (f : State α -> State α) (h : w.fault = none) :
    w.andThen f = f w := by
  unfold andThen
  rw [h]
  rfl

theorem restores_withHeight : (w.withHeight height).screen.restores = w.screen.restores := by
  let known := w.onScreen fun s => { s with pageHeight := height }
  have hscaled : (known.onSession (·.applyZoom)).screen.restores = w.screen.restores := by
    rw [screen, session_onSession]
    exact Screen.restores_run known.screen rfl
  unfold withHeight zoomBy andThen
  split
  · exact hscaled
  · exact hscaled

theorem fault_withHeight (hfault : w.fault = none) (hsound : w.session.fault = none) :
    (w.withHeight height).fault = none := by
  let known := w.onScreen fun s => { s with pageHeight := height }
  have hscaled : (known.onSession (·.applyZoom)).fault = none :=
    (fault_onSession known hsound).trans hfault
  unfold withHeight zoomBy
  rw [andThen_of_fault_eq_none _ _ hscaled]
  exact hscaled

theorem session_withHeadings :
    (w.withHeadings ps top).session =
      { ({ w.session with
          coordinator := { w.session.coordinator with headings := .ok ps, pageTop := top } } :
            Session (Screen α) α).track with fault := none } :=
  session_onSession w _

theorem looks_withHeadings : Looks w.session (w.withHeadings ps top).session := by
  rw [session_withHeadings]
  have hlooks := looks_track { w.session with
    coordinator := { w.session.coordinator with headings := .ok ps, pageTop := top } }
  exact ⟨hlooks.sync, hlooks.driver, hlooks.fraction, hlooks.view⟩

theorem restores_withHeadings :
    (w.withHeadings ps top).screen.restores = w.screen.restores := by
  rw [screen, session_withHeadings]
  exact restores_track _

/-- Headings with names are taken without fault, if the page can be measured. -/
theorem fault_withHeadings (hw : w.IsReady) (hps : ∀ p ∈ ps, IsName p.1)
    {found : Option (Metrics α)} (hfound : w.session.metrics .preview = .ok found) :
    (w.withHeadings ps top).fault = w.fault := by
  apply fault_onSession
  exact fault_track (s := { w.session with
    coordinator := { w.session.coordinator with headings := .ok ps, pageTop := top } })
    hw.sound ⟨hw.named.active, ps, rfl, hps⟩ hfound

theorem rests_withHeadings : Screen.Rests w.screen (w.withHeadings ps top).screen := by
  rw [screen, screen, session_withHeadings]
  exact rests_track { w.session with
    coordinator := { w.session.coordinator with headings := .ok ps, pageTop := top } }

theorem exists_takeReport {w : State α} (hw : w.IsReady) (hfault : w.fault = none)
    (restores : Bool) {report : List (List Char × Value α)} (h : isReadable report = true) :
    exists v : State α, v.resumeAt = w.resumeAt ∧ v.screen.restores = w.screen.restores ∧
      Looks w.session v.session ∧ Screen.Rests w.screen v.screen ∧
      (forall found, w.session.metrics .preview = .ok found -> v.fault = none) ∧
      w.takeReport restores report = v.andThen fun w =>
        if restores && Scalar.lt Scalar.zero w.resumeAt then
          w.ask (.scrollToFraction w.resumeAt) none
        else
          w := by
  rcases takeReport_of_isReadable w restores h with ⟨height, ps, top, hps, heq⟩
  let known := w.withHeight height
  have hknown : GoesOn Speaks w known := goesOn_withHeight w height
  have hready : known.IsReady := ⟨hknown.session.still.named hw.named, hknown.sound hw.sound⟩
  have hsound : known.fault = none := fault_withHeight w height hfault hw.sound
  rw [andThen_of_fault_eq_none _ _ hsound] at heq
  refine ⟨known.withHeadings ps top, ?_, ?_, ?_, ?_, ?_, heq⟩
  · exact congrArg Work.resumeAt ((work_onSession known _).trans hknown.work)
  · exact (restores_withHeadings known ps top).trans (restores_withHeight w height)
  · exact .of_speaks hknown.session (looks_withHeadings known ps top)
  · exact hknown.session.screen.toRests.trans (rests_withHeadings known ps top)
  · intro found hfound
    have hmeasured : known.session.metrics .preview = .ok found := by
      rw [metrics_congr hknown.session.screen.bar hknown.session.screen.view, hfound]
    rw [fault_withHeadings known ps top hready
      (fun p hp => isName_of_mem_headings hps hp) hmeasured, hsound]

/-- A report that can be read is taken by a look at the page that moves no pane. -/
theorem looks_takeReport {w : State α} (hw : w.IsReady) (hfault : w.fault = none)
    (restores : Bool) {report : List (List Char × Value α)} (h : isReadable report = true) :
    Looks w.session (w.takeReport restores report).session ∧
      Screen.Rests w.screen (w.takeReport restores report).screen := by
  rcases exists_takeReport hw hfault restores h with ⟨v, -, -, hlooks, hrests, -, heq⟩
  have hon : GoesOn Speaks v (w.takeReport restores report) := by
    rw [heq]
    refine (goesOn_refl v).andThen ?_
    split
    · refine goesOn_ask v rfl ?_
      nofun
    · exact goesOn_refl v
  exact ⟨hlooks.speaks hon.session, hrests.trans hon.session.screen.toRests⟩

omit [Scalar α] in
theorem restores_ask (w : State α) (x : α) (hpage : w.screen.view.hasPage = true) :
    (w.ask (.scrollToFraction x) none).screen.restores = x :: w.screen.restores := by
  have hrun : w.screen.run (.scrollToFraction x) = w.screen.note (.script (.scrollToFraction x)) :=
    if_pos hpage
  unfold ask
  rw [if_pos hpage]
  exact congrArg Screen.restores hrun

/-- A page that has been measured after its load is scrolled back to where the reader was, if this
was not the start. -/
theorem restores_takeReport {w : State α} (hw : w.IsReady) (hfault : w.fault = none)
    (hpage : w.screen.view.hasPage = true) {found : Option (Metrics α)}
    (hfound : w.session.metrics .preview = .ok found) {report : List (List Char × Value α)}
    (h : isReadable report = true) :
    (w.takeReport true report).screen.restores =
      if Scalar.lt Scalar.zero w.resumeAt then w.resumeAt :: w.screen.restores
      else w.screen.restores := by
  rcases exists_takeReport hw hfault true h with ⟨v, hresume, hrestores, -, hrests, hsound, heq⟩
  rw [andThen_of_fault_eq_none _ _ (hsound found hfound), Bool.true_and, hresume] at heq
  rw [heq]
  split
  · rw [restores_ask v w.resumeAt (by rw [hrests.view, hpage]), hrestores]
  · exact hrestores

end State

end Window
end Folio
