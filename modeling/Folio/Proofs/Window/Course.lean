import Folio.Proofs.Document.Declared
import Folio.Proofs.Window.Happening
import Folio.Proofs.Window.Telling

/-!
# The course of a step

A happening is an edit, it renders the text, or the window goes on with the page that it has
(`step_cases`). A window that goes on keeps what it works on, and all that it asks in the
meantime is about that page (`GoesOn`); so for each of its functions only the screen is left
to look at.
-/

namespace Folio
namespace Window

open Number Viewport Files

variable {α : Type}

/-- What a window works on: what is edited, and the page that came of it last. -/
structure Work (α : Type) where
  text : List Char
  settings : Settings α
  document : Option Path
  folder : Path
  today : Document.Date
  setter : Option Math.Typesetter
  sources : List (List Char)
  current : Option Document.Rendered
  page : List Char
  generation : Nat
  resumeAt : α
  renderDue : Bool

/-- What a window works on. -/
def State.work (w : State α) : Work α where
  text := w.text
  settings := w.settings
  document := w.document
  folder := w.folder
  today := w.today
  setter := w.setter
  sources := w.sources
  current := w.current
  page := w.page
  generation := w.generation
  resumeAt := w.resumeAt
  renderDue := w.renderDue

@[simp] theorem State.work_heard (w : State α) (h : Happening α) :
    (w.heard h).work = w.work := by
  cases h <;> rfl

/-- Whether a window goes on with the page that it has. Its coordinator goes on as `R` says, and
is left without a fault. -/
structure GoesOn (R : Session (Screen α) α -> Session (Screen α) α -> Prop) (w v : State α) :
    Prop where
  work : v.work = w.work
  sound : w.session.fault = none -> v.session.fault = none
  asked : exists asked, v.waiting = w.waiting ++ asked ∧
    forall generation restores, Waiting.report generation restores ∈ asked ->
      generation = w.generation
  session : R w.session v.session

namespace GoesOn

variable {R S T : Session (Screen α) α -> Session (Screen α) α -> Prop} {w v u : State α}

theorem generation (h : GoesOn R w v) : v.generation = w.generation :=
  congrArg (fun work => work.generation) h.work

theorem of_waiting_eq (hwork : v.work = w.work) (hwaiting : v.waiting = w.waiting)
    (hsound : w.session.fault = none -> v.session.fault = none)
    (hsession : R w.session v.session) : GoesOn R w v where
  work := hwork
  sound := hsound
  asked := ⟨[], by rw [hwaiting, List.append_nil], nofun⟩
  session := hsession

theorem mono (h : GoesOn R w v) (hRS : R w.session v.session -> S w.session v.session) :
    GoesOn S w v :=
  ⟨h.work, h.sound, h.asked, hRS h.session⟩

/-- One course behind another. -/
theorem comp (h : GoesOn R w v) (k : GoesOn S v u)
    (hRS : R w.session v.session -> S v.session u.session -> T w.session u.session) :
    GoesOn T w u where
  work := k.work.trans h.work
  sound := fun hw => k.sound (h.sound hw)
  asked := by
    rcases h.asked with ⟨first, hfirst, hof⟩
    rcases k.asked with ⟨next, hnext, kof⟩
    refine ⟨first ++ next, by rw [hnext, hfirst, List.append_assoc], ?_⟩
    intro generation restores hmem
    rcases List.mem_append.mp hmem with hmem | hmem
    · exact hof generation restores hmem
    · rw [kof generation restores hmem, h.generation]
  session := hRS h.session k.session

theorem trans (h : GoesOn Speaks w v) (k : GoesOn Speaks v u) : GoesOn Speaks w u :=
  h.comp k Speaks.trans

theorem still (h : GoesOn Speaks w v) : GoesOn Still w v :=
  h.mono Speaks.still

theorem tells (h : GoesOn Still w v) : GoesOn Tells w v :=
  h.mono Or.inl

/-- A part of a step that may have ended before, of which one part at most tells of another
heading. -/
theorem andThen {f : State α -> State α} (h : GoesOn Speaks w v) (k : GoesOn Speaks v (f v)) :
    GoesOn Speaks w (v.andThen f) := by
  unfold State.andThen
  split
  · exact h
  · exact h.trans k

theorem andThen_tells {f : State α -> State α} (h : GoesOn Still w v)
    (k : GoesOn Tells v (f v)) : GoesOn Tells w (v.andThen f) := by
  unfold State.andThen
  split
  · exact h.tells
  · exact h.comp k Still.tells

theorem tells_andThen {f : State α -> State α} (h : GoesOn Tells w v)
    (k : GoesOn Still v (f v)) : GoesOn Tells w (v.andThen f) := by
  unfold State.andThen
  split
  · exact h
  · exact h.comp k Tells.still

end GoesOn

/-!
## Parts of a step
-/

theorem goesOn_refl (w : State α) : GoesOn Speaks w w :=
  .of_waiting_eq rfl rfl id (Speaks.refl w.session)

theorem goesOn_onScreen {R : Session (Screen α) α -> Session (Screen α) α -> Prop} (w : State α)
    {f : Screen α -> Screen α} (h : R w.session { w.session with around := f w.screen }) :
    GoesOn R w (w.onScreen f) :=
  .of_waiting_eq rfl rfl id h

theorem goesOn_tell (w : State α) (message : List Char) (duration : Nat) :
    GoesOn Speaks w (w.tell message duration) :=
  goesOn_onScreen w ⟨rfl, Screen.still_note w.screen rfl rfl, ⟨rfl, rfl, rfl⟩⟩

theorem goesOn_fail (w : State α) (f : Fault) : GoesOn Speaks w (w.fail f) :=
  .of_waiting_eq rfl rfl id (Speaks.refl w.session)

/-- A question to the page, which does not mark a heading there. -/
theorem goesOn_ask (w : State α) {script : Script α} {who : Option Waiting}
    (hscript : (Event.script script).marked? = none)
    (hwho : forall generation restores, who = some (.report generation restores) ->
      generation = w.generation) :
    GoesOn Speaks w (w.ask script who) := by
  unfold State.ask
  split
  · refine ⟨rfl, id, ⟨who.toList, rfl, ?_⟩, ⟨rfl, Screen.speaks_run w.screen hscript⟩⟩
    intro generation restores hmem
    exact hwho generation restores (Option.mem_toList.mp hmem)
  · exact goesOn_fail w _

theorem goesOn_visit (w : State α) (generation : Nat) (restores : Bool) :
    GoesOn Speaks w (w.visit generation restores) := by
  unfold State.visit
  split
  · next hgeneration =>
      have hmeasure : GoesOn Speaks w (w.ask .measure (some .fitting)) :=
        goesOn_ask w rfl (by rintro _ _ ⟨⟩)
      refine hmeasure.andThen (goesOn_ask _ rfl ?_)
      rintro _ _ ⟨⟩
      rw [hmeasure.generation, hgeneration]
  · exact goesOn_refl w

theorem goesOn_visits (w : State α) (due : List Visit) :
    GoesOn Speaks w (due.foldl (fun w v => w.andThen (·.visit v.generation false)) w) := by
  induction due generalizing w with
  | nil => exact goesOn_refl w
  | cons v due ih =>
      have hfirst : GoesOn Speaks w (w.andThen (·.visit v.generation false)) :=
        (goesOn_refl w).andThen (goesOn_visit w v.generation false)
      exact hfirst.trans (ih _)

theorem goesOn_runVisits (w : State α) : GoesOn Speaks w w.runVisits := by
  have hcleared : GoesOn Speaks w { w with visits := [] } :=
    .of_waiting_eq rfl rfl id (Speaks.refl w.session)
  exact hcleared.trans (goesOn_visits _ w.visits)

theorem goesOn_visitedAt (w : State α) (place : Nat) : GoesOn Speaks w (w.visitedAt place) := by
  unfold State.visitedAt
  split
  · exact goesOn_refl w
  · next v _ =>
      have htaken : GoesOn Speaks w { w with visits := w.visits.eraseIdx place } :=
        .of_waiting_eq rfl rfl id (Speaks.refl w.session)
      exact htaken.trans (goesOn_visit _ v.generation false)

theorem session_onSession (w : State α) (f : Session (Screen α) α -> Session (Screen α) α) :
    (w.onSession f).session = { f w.session with fault := none } := by
  unfold State.onSession
  simp only
  split
  · next hfault => exact congrArg (Session.mk _ _) hfault
  · rfl

theorem work_onSession (w : State α) (f : Session (Screen α) α -> Session (Screen α) α) :
    (w.onSession f).work = w.work := by
  unfold State.onSession
  simp only
  split <;> rfl

theorem waiting_onSession (w : State α) (f : Session (Screen α) α -> Session (Screen α) α) :
    (w.onSession f).waiting = w.waiting := by
  unfold State.onSession
  simp only
  split <;> rfl

theorem goesOn_onSession {R : Session (Screen α) α -> Session (Screen α) α -> Prop} (w : State α)
    {f : Session (Screen α) α -> Session (Screen α) α}
    (h : R w.session { f w.session with fault := none }) : GoesOn R w (w.onSession f) := by
  refine .of_waiting_eq (work_onSession w f) (waiting_onSession w f) ?_ ?_
  · intro _
    rw [session_onSession]
  · rw [session_onSession]
    exact h

variable [Scalar α]

theorem goesOn_showZoom (w : State α) : GoesOn Speaks w w.showZoom :=
  goesOn_onScreen w ⟨rfl, ⟨rfl, rfl, rfl, rfl⟩, ⟨rfl, rfl, rfl⟩⟩

theorem goesOn_applyZoom (w : State α) : GoesOn Speaks w (w.zoomBy (·.applyZoom)) :=
  (goesOn_onSession w (speaks_applyZoom w.session).sound).andThen (goesOn_showZoom _)

theorem goesOn_zoomTo (w : State α) {f : Session (Screen α) α -> Session (Screen α) α} {x : α}
    (hf : f w.session = w.session.zoomTo x) : GoesOn Tells w (w.zoomBy f) := by
  have hzoomed : GoesOn Tells w (w.onSession f) := by
    refine goesOn_onSession w ?_
    rw [hf]
    exact (tells_zoomTo w.session x).sound
  exact hzoomed.tells_andThen (goesOn_showZoom _).still

theorem goesOn_setSync (w : State α) (on : Bool) : GoesOn Still w (w.setSync on) := by
  unfold State.setSync
  split
  · exact (goesOn_refl w).still
  · exact goesOn_onSession w (still_setSync w.session on).sound

theorem goesOn_scrollEditor (w : State α) (v : Amount α) :
    GoesOn Still w (w.scrollEditor v) := by
  have hmoved : GoesOn Still w (w.onScreen fun _ => (w.screen.setBar v).1) :=
    goesOn_onScreen w ⟨rfl, id, Screen.still_setBar w.screen v⟩
  unfold State.scrollEditor
  simp only
  split
  · exact hmoved.comp (goesOn_onSession _ ((tells_scrolled .source _).2 rfl).sound) Still.trans
  · exact hmoved

theorem goesOn_scrollPage (w : State α) (top : Amount α) :
    GoesOn Tells w (w.scrollPage top) := by
  have hmoved : GoesOn Still w
      (w.onScreen fun s => { s with view := { s.view with top := top } }) :=
    goesOn_onScreen w ⟨rfl, id, ⟨rfl, rfl, rfl, rfl⟩⟩
  unfold State.scrollPage
  simp only
  split
  · exact hmoved.comp (goesOn_onSession _ (tells_scrolled .preview _).1.sound) Still.tells
  · exact hmoved.comp (goesOn_onSession _ (tells_track _).sound) Still.tells

theorem goesOn_loaded (w : State α) (ok : Bool) : GoesOn Speaks w (w.loaded ok) := by
  unfold State.loaded
  split
  · exact ((goesOn_applyZoom w).andThen (goesOn_visit _ w.generation true)).andThen
      (.of_waiting_eq rfl rfl id (Speaks.refl _))
  · exact goesOn_tell w _ _

theorem goesOn_fit (w : State α) (answer : Value α) : GoesOn Speaks w (w.fit answer) := by
  unfold State.fit
  split
  · exact goesOn_fail w _
  · next ms _ =>
      have hplanned : GoesOn Speaks w { w with fitter := (w.fitter.plan ms).2 } :=
        .of_waiting_eq rfl rfl id (Speaks.refl w.session)
      simp only
      split
      · exact hplanned
      · exact hplanned.trans (goesOn_ask _ rfl nofun)

/-!
## Reports
-/

theorem isName_of_placed {id : List Char} {v : Value α} {p : Value α × α}
    (h : placed id v = .ok (some p)) : IsName p.1 := by
  unfold placed at h
  split at h
  · cases h
    exact Or.inr ⟨id, rfl⟩
  · cases h
  · cases h

theorem isName_of_heading? {v : Value α} {p : Value α × α} (h : heading? v = .ok (some p)) :
    IsName p.1 := by
  unfold heading? at h
  split at h
  · exact isName_of_placed h
  · exact isName_of_placed h
  · cases h
  · cases h

/-- What stands in a list that was read is read from something. -/
theorem exists_of_mem_mapM {β γ ε : Type} {f : β -> Except ε γ} {xs : List β} {ys : List γ}
    (h : xs.mapM f = .ok ys) {y : γ} (hy : y ∈ ys) : exists x, f x = .ok y := by
  induction xs generalizing ys with
  | nil =>
      cases h
      cases hy
  | cons x xs ih =>
      rw [List.mapM_cons] at h
      rcases exists_of_bind h with ⟨first, hfirst, h⟩
      rcases exists_of_bind h with ⟨rest, hrest, h⟩
      cases h
      rcases List.mem_cons.mp hy with rfl | hy
      · exact ⟨x, hfirst⟩
      · exact ih hrest hy

/-- The headings of a report have names. -/
theorem isName_of_mem_headings {report : List (List Char × Value α)} {ps : Positions α}
    (h : headings report = .ok ps) {p : Value α × α} (hp : p ∈ ps) : IsName p.1 := by
  unfold headings at h
  simp only at h
  split at h
  · split at h
    · next items _ =>
        cases hread : items.mapM heading? with
        | error e =>
            rw [hread] at h
            cases h
        | ok found =>
            rw [hread] at h
            cases h
            have hmem : some p ∈ found := by simpa using hp
            rcases exists_of_mem_mapM hread hmem with ⟨v, hv⟩
            exact isName_of_heading? hv
    · cases h
  · cases h
    cases hp

/-- Whether all that a page reports can be read. -/
def isReadable (report : List (List Char × Value α)) : Bool :=
  (pageHeight report).isOk && (headings report).isOk && (pageTop report).isOk

/-- The window with the height of its page known, and the page scaled to it. -/
def State.withHeight (w : State α) (height : Option α) : State α :=
  (w.onScreen fun s => { s with pageHeight := height }).zoomBy (·.applyZoom)

/-- A report that can be read is taken in three parts. -/
theorem takeReport_of_isReadable (w : State α) (restores : Bool)
    {report : List (List Char × Value α)} (h : isReadable report = true) :
    exists height ps top, headings report = .ok ps ∧
      w.takeReport restores report =
        ((w.withHeight height).andThen
          (·.onSession (·.setHeadings (.ok ps) (.real top)))).andThen fun w =>
            if restores && Scalar.lt Scalar.zero w.resumeAt then
              w.ask (.scrollToFraction w.resumeAt) none
            else
              w := by
  unfold isReadable at h
  unfold State.takeReport
  cases hheight : pageHeight report with
  | error e => simp [hheight, Except.isOk, Except.toBool] at h
  | ok height =>
      cases hps : headings report with
      | error e => simp [hps, Except.isOk, Except.toBool] at h
      | ok ps =>
          cases htop : pageTop report with
          | error e => simp [htop, Except.isOk, Except.toBool] at h
          | ok top => exact ⟨height, ps, top, rfl, rfl⟩

theorem goesOn_withHeight (w : State α) (height : Option α) :
    GoesOn Speaks w (w.withHeight height) := by
  have hheight : GoesOn Speaks w (w.onScreen fun s => { s with pageHeight := height }) :=
    goesOn_onScreen w ⟨rfl, ⟨rfl, rfl, rfl, rfl⟩, ⟨rfl, rfl, rfl⟩⟩
  exact hheight.trans (goesOn_applyZoom _)

theorem goesOn_takeReport_of_not_isReadable (w : State α) (restores : Bool)
    {report : List (List Char × Value α)} (h : isReadable report = false) :
    GoesOn Speaks w (w.takeReport restores report) := by
  unfold State.takeReport
  split
  · exact goesOn_fail w _
  · next height hheight =>
      have hknown : GoesOn Speaks w (w.onScreen fun s => { s with pageHeight := height }) :=
        goesOn_onScreen w ⟨rfl, ⟨rfl, rfl, rfl, rfl⟩, ⟨rfl, rfl, rfl⟩⟩
      simp only
      split
      · exact hknown.trans (goesOn_fail _ _)
      · exact hknown.trans (goesOn_fail _ _)
      · next hps htop =>
          simp [isReadable, hheight, hps, htop, Except.isOk, Except.toBool] at h

theorem goesOn_takeReport (w : State α) (restores : Bool) (report : List (List Char × Value α)) :
    GoesOn Tells w (w.takeReport restores report) := by
  cases hreadable : isReadable report with
  | false => exact (goesOn_takeReport_of_not_isReadable w restores hreadable).still.tells
  | true =>
      rcases takeReport_of_isReadable w restores hreadable with ⟨height, ps, top, hps, heq⟩
      rw [heq]
      have hread := (goesOn_withHeight w height).still.andThen_tells
        (f := (·.onSession (·.setHeadings (.ok ps) (.real top))))
        (goesOn_onSession _
          (tells_setHeadings _ (fun p hp => isName_of_mem_headings hps hp) (.real top)).sound)
      refine hread.tells_andThen ?_
      split
      · refine GoesOn.still (goesOn_ask _ rfl ?_)
        nofun
      · exact (goesOn_refl _).still

theorem goesOn_reported (w : State α) (generation : Nat) (restores : Bool) (answer : Value α) :
    GoesOn Tells w (w.reported generation restores answer) := by
  unfold State.reported
  split
  · split
    · exact goesOn_takeReport w restores _
    · exact (goesOn_refl w).still.tells
  · exact (goesOn_refl w).still.tells

theorem goesOn_serve (w : State α) (who : Waiting) (answer : Value α) :
    GoesOn Tells w (w.serve who answer) := by
  cases who with
  | fitting => exact (goesOn_fit w answer).still.tells
  | report generation restores => exact goesOn_reported w generation restores answer

omit [Scalar α] in
theorem goesOn_fireFit (w : State α) : GoesOn Speaks w w.fireFit := by
  unfold State.fireFit
  split
  · have hrung : GoesOn Speaks w { w with fitDue := false } :=
      .of_waiting_eq rfl rfl id (Speaks.refl w.session)
    exact hrung.trans (goesOn_visit _ w.generation false)
  · exact goesOn_refl w

omit [Scalar α] in
theorem goesOn_fireIdle (w : State α) : GoesOn Still w w.fireIdle := by
  have hrung : GoesOn Still w (w.onScreen fun s => { s with idle := w.screen.idle.runOut.1 }) :=
    goesOn_onScreen w ⟨rfl, id, ⟨rfl, rfl, rfl, rfl⟩⟩
  unfold State.fireIdle
  simp only
  split
  · refine hrung.comp (goesOn_onSession _ ?_) Still.trans
    exact ⟨rfl, fun h => ⟨h.active, h.headings⟩, Screen.Still.refl _⟩
  · exact hrung

/-!
## Edits
-/

/-- The settings that a happening names, with their values. -/
def Happening.fields (c : Controls α) : Happening α -> List (List Char × Value α)
  | .chosen choice =>
      match c.choose? choice with
      | some (_, name, v) => [(name, v)]
      | none => []
  | .changed fields => fields
  | _ => []

/-- Whether a happening edited the text or the settings, so that the text is to be rendered. -/
structure Edits (h : Happening α) (w v : State α) : Prop where
  work : v.work = { w.work with text := v.text, settings := v.settings, renderDue := true }
  waiting : v.waiting = w.waiting
  session : v.session = w.session
  settings : v.settings = w.settings ∨
    w.settings.change (h.fields w.controls) = .ok v.settings

theorem change_cases (w : State α) (fields : List (List Char × Value α)) :
    GoesOn Speaks w (w.change fields) ∨
    exists s, w.settings.change fields = .ok s ∧
      w.change fields = { w with settings := s }.schedule := by
  unfold State.change
  split
  · next s hs => exact Or.inr ⟨s, hs, rfl⟩
  · apply Or.inl
    split
    · exact goesOn_tell w _ _
    · exact goesOn_fail w _

theorem edits_change (w : State α) (fields : List (List Char × Value α)) :
    GoesOn Speaks w (w.change fields) ∨ Edits (.changed fields) w (w.change fields) := by
  rcases change_cases w fields with hon | ⟨s, hs, heq⟩
  · exact Or.inl hon
  · rw [heq]
    exact Or.inr ⟨rfl, rfl, rfl, Or.inr hs⟩

theorem edits_choose (w : State α) (choice : Choice α) :
    GoesOn Speaks w (w.choose choice) ∨ Edits (.chosen choice) w (w.choose choice) := by
  unfold State.choose
  split
  · exact Or.inl (goesOn_refl w)
  · next controls name v hchosen =>
      have hset : GoesOn Speaks w { w with controls := controls } :=
        .of_waiting_eq rfl rfl id (Speaks.refl w.session)
      rcases change_cases { w with controls := controls } [(name, v)] with hon | ⟨s, hs, heq⟩
      · exact Or.inl (hset.trans hon)
      · rw [heq]
        refine Or.inr ⟨rfl, rfl, rfl, Or.inr ?_⟩
        rw [Happening.fields, hchosen]
        exact hs

/-!
## Rendering
-/

/-- The window with another document in its view. -/
def State.renewed (w : State α) (d : Document.Rendered) (page : List Char) : State α :=
  { w with
    generation := w.generation + 1
    current := some d
    resumeAt := w.session.coordinator.previewFraction
    page := page }.onScreen fun s =>
      { s with headings := d.headings }.note (.mounted d.body w.base)

/-- What is rendered under a title that is no text is not rendered. -/
theorem exists_page_of_render {setter : Option Math.Typesetter} {s : Settings α}
    {today : Document.Date} {source : List Char} {d : Document.Rendered}
    (h : Document.render setter s today source = .ok (some d)) (sources : List (List Char)) :
    exists page, Document.page s d.body d.stylesheet sources = .ok page := by
  unfold Document.render at h
  split at h
  · cases h
  · simp only at h
    split at h
    · cases h
    · cases h
    · next hheader =>
        unfold Document.header at hheader
        unfold Document.page
        cases htitle : Document.titleOf s with
        | error f =>
            rw [htitle] at hheader
            cases hheader
        | ok title => exact ⟨_, rfl⟩

/-- A rendered document is put into the view with its page; otherwise the window goes on. -/
theorem render_cases (w : State α) :
    (GoesOn Speaks w w.render ∧
      forall d, Document.render w.setter w.settings w.today w.text ≠ .ok (some d)) ∨
    exists d page, Document.render w.setter w.settings w.today w.text = .ok (some d) ∧
      Document.page w.settings d.body d.stylesheet w.sources = .ok page ∧
      w.render = w.renewed d page := by
  unfold State.render
  cases hrender : Document.render w.setter w.settings w.today w.text with
  | error f => exact Or.inl ⟨goesOn_fail w _, nofun⟩
  | ok found =>
      cases found with
      | none => exact Or.inl ⟨goesOn_tell w _ _, nofun⟩
      | some d =>
          rcases exists_page_of_render hrender w.sources with ⟨page, hpage⟩
          refine Or.inr ⟨d, page, rfl, hpage, ?_⟩
          simp only [State.mount, hpage]
          rfl

/-- Nothing is asked of the page while the text is rendered. -/
theorem waiting_render (w : State α) : w.render.waiting = w.waiting := by
  unfold State.render
  split
  · rfl
  · rfl
  · unfold State.mount
    simp only
    split <;> rfl

/-!
## Steps
-/

/-- Whether the timer for rendering runs out while it is on. -/
structure Renders (h : Happening α) (w v : State α) : Prop where
  fired : h = .renderFired
  due : w.renderDue = true
  eq : v = { w with fault := none, renderDue := false }.render

/-- What a step can be. -/
theorem step_cases (w : State α) (h : Happening α) :
    GoesOn Tells (w.heard h) (w.step h) ∨ Edits h (w.heard h) (w.step h) ∨
      Renders h w (w.step h) := by
  have hfresh : GoesOn Still w { w with fault := none } :=
    .of_waiting_eq rfl rfl id (Still.refl w.session)
  have hon {v : State α} (k : GoesOn Tells { w with fault := none } v) : GoesOn Tells w v :=
    hfresh.comp k Still.tells
  cases h with
  | typed s => exact Or.inr (Or.inl ⟨rfl, rfl, rfl, Or.inl rfl⟩)
  | chosen c =>
      rcases edits_choose { w with fault := none } c with h | h
      · exact Or.inl (hon h.still.tells)
      · exact Or.inr (Or.inl ⟨h.work, h.waiting, h.session, h.settings⟩)
  | changed fields =>
      rcases edits_change { w with fault := none } fields with h | h
      · exact Or.inl (hon h.still.tells)
      · exact Or.inr (Or.inl ⟨h.work, h.waiting, h.session, h.settings⟩)
  | zoomedIn | zoomedOut | zoomReset => exact Or.inl (hon (goesOn_zoomTo _ rfl))
  | synced on => exact Or.inl (hon (goesOn_setSync _ on).tells)
  | editorScrolled v => exact Or.inl (hon (goesOn_scrollEditor _ v).tells)
  | pageScrolled top => exact Or.inl (hon (goesOn_scrollPage _ top))
  | resized => exact Or.inl (.of_waiting_eq rfl rfl id (Or.inl (Still.refl w.session)))
  | loaded ok => exact Or.inl (hon (goesOn_loaded _ ok).still.tells)
  | answered place v =>
      apply Or.inl
      have htaken : GoesOn Still (w.heard (.answered place v))
          { w with fault := none, waiting := w.waiting.eraseIdx place } :=
        .of_waiting_eq rfl rfl id (Still.refl w.session)
      simp only [State.step, State.answeredAt]
      split
      · next hnobody =>
          refine .of_waiting_eq rfl ?_ id (Or.inl (Still.refl w.session))
          exact (List.eraseIdx_of_length_le (List.getElem?_eq_none_iff.mp hnobody)).symm
      · next who _ => exact htaken.comp (goesOn_serve _ who v) Still.tells
  | visited place => exact Or.inl (hon (goesOn_visitedAt _ place).still.tells)
  | visitedAll => exact Or.inl (hon (goesOn_runVisits _).still.tells)
  | renderFired =>
      simp only [State.step, State.fireRender]
      split
      · next hdue => exact Or.inr (Or.inr ⟨rfl, hdue, rfl⟩)
      · exact Or.inl hfresh.tells
  | fitFired => exact Or.inl (hon (goesOn_fireFit _).still.tells)
  | idleFired => exact Or.inl (hon (goesOn_fireIdle _).tells)
  | editorSized _ _ | pageSized _ _ | barShown _ | pageShown _ =>
      exact Or.inl (.of_waiting_eq rfl rfl id (Or.inl ⟨rfl, id, ⟨rfl, rfl, rfl, rfl⟩⟩))

/-- What a step asks of the page comes behind what is asked already, and reports are asked for
the page that is shown then. -/
theorem waiting_step (w : State α) (h : Happening α) :
    exists asked, (w.step h).waiting = (w.heard h).waiting ++ asked ∧
      forall generation restores, Waiting.report generation restores ∈ asked ->
        generation = (w.step h).generation := by
  rcases step_cases w h with hon | hedits | hrenders
  · rw [hon.generation]
    exact hon.asked
  · exact ⟨[], by rw [hedits.waiting, List.append_nil], nofun⟩
  · have hheard : (w.heard h).waiting = w.waiting := by
      rw [hrenders.fired]
      rfl
    rw [hheard, hrenders.eq, waiting_render]
    exact ⟨[], (List.append_nil _).symm, nofun⟩

/-!
## Opening
-/

/-- A window before its first text is rendered. -/
def State.opening (text : List Char) (settings : Settings α) (controls : Controls α)
    (document : Option Path) (folder : Path) (sources : List (List Char))
    (today : Document.Date) : State α where
  session := ⟨.start (Scalar.ofInt 100) true, .start, none⟩
  text := text
  settings := settings
  controls := controls
  document := document
  folder := folder
  today := today
  setter := some Math.deferred
  fitter := .start Fit.blockSelector
  sources := sources
  current := none
  page := []
  generation := 0
  resumeAt := Scalar.zero
  renderDue := false
  fitDue := false
  waiting := []
  visits := []
  fault := none

/-- With a typesetter a document is rendered, or there is a fault. -/
theorem render_ne_none (setter : Math.Typesetter) (s : Settings α) (today : Document.Date)
    (source : List Char) : Document.render (some setter) s today source ≠ .ok none := by
  unfold Document.render
  simp only
  split
  · nofun
  · nofun
  · nofun

/-- A window that was opened has rendered its first text. -/
theorem start_cases {text : List Char} {settings : Settings α} {document : Option Path}
    {folder : Path} {sources : List (List Char)} {today : Document.Date} {w : State α}
    (hstart : State.start text settings document folder sources today = .ok w) :
    exists controls d page,
      let opening := (State.opening text settings controls document folder sources today).tell
        "Ready".toList 0
      Document.render (some Math.deferred) settings today text = .ok (some d) ∧
        Document.page settings d.body d.stylesheet sources = .ok page ∧
        w = opening.renewed d page := by
  unfold State.start at hstart
  split at hstart
  · cases hstart
  · next controls _ =>
      let opening := (State.opening text settings controls document folder sources today).tell
        "Ready".toList 0
      have hrendered : opening.render.fault = none ∧ w = opening.render := by
        simp only at hstart
        split at hstart
        · cases hstart
        · next hfault =>
            cases hstart
            exact ⟨hfault, rfl⟩
      rcases hrendered with ⟨hfault, hw⟩
      refine ⟨controls, ?_⟩
      rcases render_cases opening with ⟨-, hnone⟩ | ⟨d, page, hd, hpage, heq⟩
      · cases hrender : Document.render (some Math.deferred) settings today text with
        | error f =>
            have hended : opening.render = opening.fail (.document f) := by
              unfold State.render
              rw [show Document.render opening.setter opening.settings opening.today opening.text =
                .error f from hrender]
            rw [hended] at hfault
            cases hfault
        | ok found =>
            cases found with
            | none => exact absurd hrender (render_ne_none _ _ _ _)
            | some d => exact absurd hrender (hnone d)
      · exact ⟨d, page, hd, hpage, hw.trans heq⟩

end Window
end Folio
