import Folio.Proofs.Window.Leading

/-!
# The reading position while the text is rendered anew

A page that is put into the view stands at its start, and reports so. Until it has been measured
and scrolled back, the window keeps the fraction that its coordinator remembered when the page
came (`State.resumeAt`). A look at the page in the meantime puts the start of the page in the place
of this fraction; when the text is rendered again after that, the position is lost
(`Resuming.Follows`).
-/

namespace Folio
namespace Window

open Number Viewport Files

variable {α : Type} [Scalar α]

/-- Whether a happening belongs to rendering: an edit, the timer, a load, an answer of the page, a
look at it that is due, or its report that it stands at its start. -/
def Happening.IsRenewal : Happening α -> Prop
  | .typed _ | .chosen _ | .changed _ | .renderFired | .loaded _ | .answered _ _ | .visited _
  | .visitedAll => True
  | .pageScrolled top => top.toNumber = .ok Scalar.zero
  | _ => False

theorem isRenewal_pageScrolled_zero (h : Scalar.holdsInt α 0 = true) :
    (Happening.pageScrolled (.whole 0) : Happening α).IsRenewal :=
  if_pos h

/-- Whether a page reported where it stands. -/
def Reported (happenings : List (Happening α)) : Prop :=
  exists top, Happening.pageScrolled top ∈ happenings

namespace State

/-- The window with its page at the start. -/
def atStart (w : State α) : State α :=
  w.pageAt (.real Scalar.zero)

/-- The window after a happening. A page that was put into the view stands at its start. -/
def stepFresh (w : State α) (h : Happening α) : State α :=
  let v := w.step h
  if v.generation = w.generation then v else v.atStart

/-- The window after a list of happenings, where fresh pages stand at their start. -/
def runFresh (w : State α) (happenings : List (Happening α)) : State α :=
  happenings.foldl stepFresh w

/-- Whether the coordinator looks at the page when something happens to the window. -/
def looks (w : State α) : Happening α -> Bool
  | .pageScrolled _ => true
  | .answered place (.object report) =>
      match w.waiting[place]? with
      | some (.report generation _) => decide (generation = w.generation) && isReadable report
      | _ => false
  | _ => false

end State

/-- A window, whether its coordinator looked at a page since the first one was put into the view,
and whether it had when the last one was. -/
structure Resuming (α : Type) where
  window : State α
  looked : Bool
  lookedBefore : Bool

namespace Resuming

/-- A window that renders the text anew, after a happening. -/
def step (x : Resuming α) (h : Happening α) : Resuming α :=
  let v := x.window.stepFresh h
  { window := v
    looked := x.looked || x.window.looks h
    lookedBefore := if v.generation = x.window.generation then x.lookedBefore else x.looked }

theorem step_of_generation_eq (x : Resuming α) {h : Happening α}
    (hsame : (x.window.step h).generation = x.window.generation) :
    x.step h = ⟨x.window.step h, x.looked || x.window.looks h, x.lookedBefore⟩ := by
  have hfresh : x.window.stepFresh h = x.window.step h := if_pos hsame
  simp only [step, hfresh, if_pos hsame]

theorem step_of_generation_ne (x : Resuming α) {h : Happening α}
    (hnext : (x.window.step h).generation ≠ x.window.generation) :
    x.step h = ⟨(x.window.step h).atStart, x.looked || x.window.looks h, x.looked⟩ := by
  have hfresh : x.window.stepFresh h = (x.window.step h).atStart := if_neg hnext
  have hstart : (x.window.step h).atStart.generation ≠ x.window.generation := hnext
  simp only [step, hfresh, if_neg hstart]

/-- A window that renders the text anew, after a list of happenings. -/
def run (x : Resuming α) (happenings : List (Happening α)) : Resuming α :=
  happenings.foldl step x

theorem window_run (x : Resuming α) (happenings : List (Happening α)) :
    (x.run happenings).window = x.window.runFresh happenings := by
  induction happenings generalizing x with
  | nil => rfl
  | cons h rest ih => exact ih (x.step h)

end Resuming

/-!
## Readiness
-/

namespace State.IsReady

variable {w v : State α}

omit [Scalar α] in
theorem of_session_eq (hw : w.IsReady) (h : v.session = w.session) : v.IsReady where
  named := h.symm ▸ hw.named
  sound := h.symm ▸ hw.sound

omit [Scalar α] in
theorem goesOn (hw : w.IsReady) (hon : GoesOn Tells w v) : v.IsReady :=
  ⟨hon.session.named hw.named, hon.sound hw.sound⟩

theorem step (hw : w.IsReady) (h : Happening α) : (w.step h).IsReady := by
  have hheard : (w.heard h).IsReady := hw.of_session_eq (session_heard w h)
  rcases step_cases w h with hon | hedits | hrenders
  · exact hheard.goesOn hon
  · exact hheard.of_session_eq hedits.session
  · let fresh : State α := { w with fault := none, renderDue := false }
    have hfresh : fresh.IsReady := hw.of_session_eq rfl
    rw [hrenders.eq]
    rcases render_cases fresh with ⟨hon, -⟩ | ⟨d, page, -, -, heq⟩
    · exact hfresh.goesOn hon.still.tells
    · rw [heq]
      exact ⟨hw.named, hw.sound⟩

theorem stepFresh (hw : w.IsReady) (h : Happening α) : (w.stepFresh h).IsReady := by
  unfold State.stepFresh
  simp only
  split
  · exact hw.step h
  · exact (hw.step h).pageAt _

theorem runFresh (hw : w.IsReady) (happenings : List (Happening α)) :
    (w.runFresh happenings).IsReady := by
  induction happenings generalizing w with
  | nil => exact hw
  | cons h rest ih => exact ih (hw.stepFresh h)

theorem start {text : List Char} {settings : Settings α} {document : Option Path}
    {folder : Path} {sources : List (List Char)} {today : Document.Date}
    (hstart : State.start text settings document folder sources today = .ok w) : w.IsReady := by
  rcases start_cases hstart with ⟨controls, d, page, -, -, rfl⟩
  exact ⟨⟨Or.inl rfl, [], rfl, nofun⟩, rfl⟩

end State.IsReady

/-!
## Steps
-/

/-- Whether a window stays with its page: at most a message was shown, or the page was asked for
something. -/
structure Stays (w v : State α) : Prop where
  generation : v.generation = w.generation
  resumeAt : v.resumeAt = w.resumeAt
  session : Speaks w.session v.session

namespace Stays

variable {w v u : State α}

omit [Scalar α] in
theorem trans (hwv : Stays w v) (hvu : Stays v u) : Stays w u where
  generation := hvu.generation.trans hwv.generation
  resumeAt := hvu.resumeAt.trans hwv.resumeAt
  session := hwv.session.trans hvu.session

omit [Scalar α] in
theorem of_goesOn (h : GoesOn Speaks w v) : Stays w v where
  generation := h.generation
  resumeAt := congrArg Work.resumeAt h.work
  session := h.session

theorem of_edits {h : Happening α} (hedits : Edits h w v) : Stays w v where
  generation := congrArg Work.generation hedits.work
  resumeAt := congrArg Work.resumeAt hedits.work
  session := by
    rw [hedits.session]
    exact Speaks.refl _

theorem of_goesOn_or_edits {h : Happening α} (hor : GoesOn Speaks w v ∨ Edits h w v) :
    Stays w v :=
  hor.elim of_goesOn of_edits

end Stays

/-- An answer is taken from those that are waited for. -/
def State.taking (w : State α) (place : Nat) : State α :=
  { w with fault := none, waiting := w.waiting.eraseIdx place }

/-- What an answer does that lets nobody look at the page. -/
theorem stays_answered (w : State α) {place : Nat} {answer : Value α}
    (hlooks : w.looks (.answered place answer) = false) :
    Stays w (w.step (.answered place answer)) := by
  have htaken : Stays w (w.taking place) := ⟨rfl, rfl, Speaks.refl _⟩
  simp only [State.step, State.answeredAt]
  split
  · exact ⟨rfl, rfl, Speaks.refl _⟩
  · next who hwho =>
      refine htaken.trans (.of_goesOn ?_)
      cases who with
      | fitting => exact goesOn_fit _ answer
      | report generation restores =>
          unfold State.serve State.reported
          simp only
          split
          · next report =>
              split
              · next hshown =>
                  apply goesOn_takeReport_of_not_isReadable
                  have hwaiting : w.waiting[place]? = some (.report generation restores) := hwho
                  have hgeneration : generation = w.generation := hshown
                  simpa [State.looks, hwaiting, hgeneration] using hlooks
              · exact goesOn_refl _
          · exact goesOn_refl _

/-- An answer that lets the coordinator look at the page is a report that can be read. -/
theorem exists_of_looks (w : State α) {place : Nat} {answer : Value α}
    (hlooks : w.looks (.answered place answer) = true) :
    exists report restores, answer = .object report ∧ isReadable report = true ∧
      w.waiting[place]? = some (.report w.generation restores) := by
  unfold State.looks at hlooks
  split at hlooks
  · next h => cases h
  · next taken report h =>
      cases h
      split at hlooks
      · next generation restores hwaiting =>
          rw [Bool.and_eq_true, decide_eq_true_iff] at hlooks
          exact ⟨report, restores, rfl, hlooks.2, by rw [hwaiting, hlooks.1]⟩
      · cases hlooks
  · cases hlooks

theorem step_report (w : State α) {place : Nat} {restores : Bool}
    (hwaiting : w.waiting[place]? = some (.report w.generation restores))
    (report : List (List Char × Value α)) :
    w.step (.answered place (.object report)) = (w.taking place).takeReport restores report := by
  simp only [State.step, State.answeredAt, hwaiting, State.serve, State.reported, if_true]
  rfl

theorem generation_report (w : State α) {place : Nat} {restores : Bool}
    (hwaiting : w.waiting[place]? = some (.report w.generation restores))
    (report : List (List Char × Value α)) :
    (w.step (.answered place (.object report))).generation = w.generation := by
  rw [step_report w hwaiting]
  exact (goesOn_takeReport (w.taking place) restores report).generation

/-- Whether a step puts a document into the view. -/
def Renews (w v : State α) : Prop :=
  exists d page, v = { w with fault := none, renderDue := false : State α }.renewed d page

/-- What a happening does that lets nobody look at the page. -/
theorem renewal_cases (w : State α) {h : Happening α} (hrenewal : h.IsRenewal)
    (hlooks : w.looks h = false) : Stays w (w.step h) ∨ Renews w (w.step h) := by
  have hfresh : Stays w { w with fault := none } := ⟨rfl, rfl, Speaks.refl _⟩
  cases h with
  | typed s => exact Or.inl ⟨rfl, rfl, Speaks.refl _⟩
  | chosen c => exact Or.inl (hfresh.trans (.of_goesOn_or_edits (edits_choose _ c)))
  | changed fields => exact Or.inl (hfresh.trans (.of_goesOn_or_edits (edits_change _ fields)))
  | loaded ok => exact Or.inl (hfresh.trans (.of_goesOn (goesOn_loaded _ ok)))
  | answered place answer => exact Or.inl (stays_answered w hlooks)
  | visited place => exact Or.inl (hfresh.trans (.of_goesOn (goesOn_visitedAt _ place)))
  | visitedAll => exact Or.inl (hfresh.trans (.of_goesOn (goesOn_runVisits _)))
  | pageScrolled top => cases hlooks
  | renderFired =>
      simp only [State.step, State.fireRender]
      split
      · let due : State α := { w with fault := none, renderDue := false }
        have hdue : Stays w due := ⟨rfl, rfl, Speaks.refl _⟩
        rcases render_cases due with ⟨hon, -⟩ | ⟨d, page, -, -, heq⟩
        · exact Or.inl (hdue.trans (.of_goesOn hon))
        · exact Or.inr ⟨d, page, heq⟩
      · exact Or.inl hfresh
  | _ => cases hrenewal

/-!
## The position that is kept
-/

/-- Whether a view shows the page of another one, at the start. -/
structure View.IsStartOf (u v : View α) : Prop where
  top : u.top.toNumber = .ok Scalar.zero
  contents : u.contents = v.contents
  height : u.height = v.height
  hasPage : u.hasPage = v.hasPage

theorem View.IsStartOf.metrics_preview {s t : Session (Screen α) α} {v : View α}
    (hs : s.around.view.IsStartOf v) (ht : t.around.view.IsStartOf v) :
    t.metrics .preview = s.metrics .preview := by
  simp only [Session.metrics, Surroundings.metrics, Screen.viewMetrics, hs.hasPage, hs.contents,
    hs.height, hs.top, ht.hasPage, ht.contents, ht.height, ht.top]

theorem State.isStartOf_atStart (w : State α) : w.atStart.screen.view.IsStartOf w.screen.view :=
  ⟨rfl, rfl, rfl, rfl⟩

theorem Leads.congr {s t : Session (Screen α) α} (h : Leads s)
    (hsync : t.coordinator.sync = s.coordinator.sync)
    (hdriver : t.coordinator.driver = some .source ↔ s.coordinator.driver = some .source)
    (hmetrics : forall side, t.metrics side = s.metrics side) : Leads t := by
  rcases h with ⟨hon, hfree, page, editor, n, hpage, heditor, hround⟩
  refine ⟨hsync.trans hon, fun hdrives => hfree (hdriver.mp hdrives), page, editor, n, ?_, ?_,
    hround⟩
  · rw [hmetrics, hpage]
  · rw [hmetrics, heditor]

namespace Resuming

/-- What became of the reading position and of the editor since a window rendered its text. -/
structure Follows (base : State α) (done : List (Happening α)) (x : Resuming α) : Prop where
  ready : x.window.IsReady
  sync : x.window.session.coordinator.sync = base.session.coordinator.sync
  driver : x.window.session.coordinator.driver = some .source ↔
    base.session.coordinator.driver = some .source
  view : x.window.screen.view.IsStartOf base.screen.view
  fraction : x.window.session.coordinator.previewFraction =
    if x.looked then base.atStart.session.seen else base.session.coordinator.previewFraction
  resumeAt : x.window.resumeAt =
    if x.lookedBefore then base.atStart.session.seen else base.session.coordinator.previewFraction
  rests : ¬ (Reported done ∧ Leads base.atStart.session) ->
    x.window.screen.bar = base.screen.bar ∧ x.window.screen.barSets = base.screen.barSets
  moved : Reported done -> Leads base.atStart.session ->
    base.screen.barSets.length < x.window.screen.barSets.length

namespace Follows

variable {base : State α} {done : List (Happening α)} {x : Resuming α}

theorem metrics_preview (hx : x.Follows base done) :
    x.window.session.metrics .preview = base.atStart.session.metrics .preview :=
  base.isStartOf_atStart.metrics_preview hx.view

/-- What a look finds is the start of the page. -/
theorem seen (hx : x.Follows base done) : x.window.session.seen = base.atStart.session.seen := by
  unfold Session.seen
  rw [hx.metrics_preview]
  split
  · rfl
  · next hnone =>
      -- there was nothing to look at before either
      have hseen : base.atStart.session.seen = base.session.coordinator.previewFraction := by
        unfold Session.seen
        split
        · next m hm => exact absurd hm (hnone m)
        · rfl
      rw [hx.fraction, hseen, ite_self]
      rfl

theorem pageAt (hx : x.Follows base done) {top : Amount α}
    (htop : top.toNumber = .ok Scalar.zero) :
    Follows base done { x with window := x.window.pageAt top } where
  ready := hx.ready.pageAt top
  sync := hx.sync
  driver := hx.driver
  view := ⟨htop, hx.view.contents, hx.view.height, hx.view.hasPage⟩
  fraction := hx.fraction
  resumeAt := hx.resumeAt
  rests := hx.rests
  moved := hx.moved

theorem stays (hx : x.Follows base done) {v : State α} (hstays : Stays x.window v)
    (hready : v.IsReady) : Follows base done { x with window := v } where
  ready := hready
  sync := by rw [hstays.session.coordinator, hx.sync]
  driver := by rw [hstays.session.coordinator, hx.driver]
  view := by
    rw [State.screen, hstays.session.screen.view]
    exact hx.view
  fraction := by rw [hstays.session.coordinator, hx.fraction]
  resumeAt := hstays.resumeAt.trans hx.resumeAt
  rests := fun h =>
    ⟨hstays.session.screen.bar.trans (hx.rests h).1,
      hstays.session.screen.barSets.trans (hx.rests h).2⟩
  moved := fun hreported hleads => by
    have hsame : v.screen.barSets = x.window.screen.barSets := hstays.session.screen.barSets
    rw [hsame]
    exact hx.moved hreported hleads

theorem looks (hx : x.Follows base done) {v : State α} {now : List (Happening α)}
    (hlooks : Looks x.window.session v.session) (hresume : v.resumeAt = x.window.resumeAt)
    (hready : v.IsReady)
    (hrests : ¬ (Reported now ∧ Leads base.atStart.session) ->
      v.screen.bar = base.screen.bar ∧ v.screen.barSets = base.screen.barSets)
    (hmoved : Reported now -> Leads base.atStart.session ->
      base.screen.barSets.length < v.screen.barSets.length) :
    Follows base now ⟨v, true, x.lookedBefore⟩ where
  ready := hready
  sync := hlooks.sync.trans hx.sync
  driver := hlooks.driver.trans hx.driver
  view := by
    rw [State.screen, hlooks.view]
    exact hx.view
  fraction := hlooks.fraction.trans hx.seen
  resumeAt := hresume.trans hx.resumeAt
  rests := hrests
  moved := hmoved

theorem reported (hx : x.Follows base done) {v : State α}
    (hlooks : Looks x.window.session v.session) (hresume : v.resumeAt = x.window.resumeAt)
    (hready : v.IsReady) (hrests : Screen.Rests x.window.screen v.screen) :
    Follows base done ⟨v, true, x.lookedBefore⟩ := by
  refine hx.looks hlooks hresume hready ?_ ?_
  · intro h
    exact ⟨hrests.bar.trans (hx.rests h).1, hrests.barSets.trans (hx.rests h).2⟩
  · intro hreported hleads
    rw [hrests.barSets]
    exact hx.moved hreported hleads

theorem renewed (hx : x.Follows base done) (d : Document.Rendered) (page : List Char) :
    Follows base done ⟨(x.window.renewed d page).atStart, x.looked, x.looked⟩ where
  ready := ⟨hx.ready.named, hx.ready.sound⟩
  sync := hx.sync
  driver := hx.driver
  view := ⟨rfl, hx.view.contents, hx.view.height, hx.view.hasPage⟩
  fraction := hx.fraction
  resumeAt := hx.fraction
  rests := hx.rests
  moved := hx.moved

theorem append (hx : x.Follows base done) {h : Happening α}
    (hother : forall top, h ≠ .pageScrolled top) : x.Follows base (done ++ [h]) := by
  have hsame : Reported (done ++ [h]) ↔ Reported done := by
    constructor
    · rintro ⟨top, hmem⟩
      rcases List.mem_append.mp hmem with hmem | hmem
      · exact ⟨top, hmem⟩
      · exact absurd (List.mem_singleton.mp hmem).symm (hother top)
    · rintro ⟨top, hmem⟩
      exact ⟨top, List.mem_append_left _ hmem⟩
  exact { hx with
    rests := fun h => hx.rests (by rwa [← hsame])
    moved := fun hreported => hx.moved (hsame.mp hreported) }

/-- Whether the page leads the editor depends on where the editor is. -/
theorem leads_iff (hx : x.Follows base done) (hbar : x.window.screen.bar = base.screen.bar) :
    Leads x.window.session ↔ Leads base.atStart.session := by
  have hmetrics (side : Side) :
      x.window.session.metrics side = base.atStart.session.metrics side := by
    cases side with
    | source => exact metrics_source_congr hbar
    | preview => exact hx.metrics_preview
  constructor
  · intro h
    exact h.congr hx.sync.symm hx.driver.symm fun side => (hmetrics side).symm
  · intro h
    exact h.congr hx.sync hx.driver hmetrics

theorem barSets_length_le (hx : x.Follows base done) :
    base.screen.barSets.length ≤ x.window.screen.barSets.length := by
  by_cases h : Reported done ∧ Leads base.atStart.session
  · exact Nat.le_of_lt (hx.moved h.1 h.2)
  · exact Nat.le_of_eq (congrArg List.length (hx.rests h).2.symm)

/-- The page reports that it stands at its start. -/
theorem scrolled (hx : x.Follows base done) {top : Amount α}
    (htop : top.toNumber = .ok Scalar.zero) (hready : (x.window.scrollPage top).IsReady) :
    Follows base (done ++ [.pageScrolled top])
      ⟨x.window.scrollPage top, true, x.lookedBefore⟩ := by
  have hstart := hx.pageAt htop
  have hresume : (x.window.scrollPage top).resumeAt = x.window.resumeAt :=
    congrArg Work.resumeAt (goesOn_scrollPage x.window top).work
  have hreported : Reported (done ++ [.pageScrolled top]) :=
    ⟨top, List.mem_append_right _ (List.mem_singleton_self _)⟩
  -- as long as the editor is where it was, the page leads it as it did at first
  have hleads : ¬ (Reported done ∧ Leads base.atStart.session) ->
      (Leads (x.window.pageAt top).session ↔ Leads base.atStart.session) :=
    fun h => hstart.leads_iff (hx.rests h).1
  by_cases hnow : Leads (x.window.pageAt top).session
  · rcases State.scrollPage_of_leads hx.ready hnow with ⟨hlooks, n, hset⟩
    refine hstart.looks hlooks hresume hready ?_ ?_
    · intro h
      have hnever : ¬ Leads base.atStart.session := fun hbase => h ⟨hreported, hbase⟩
      exact absurd ((hleads fun h => hnever h.2).mp hnow) hnever
    · intro _ _
      rw [hset]
      exact Nat.lt_succ_of_le hx.barSets_length_le
  · rcases State.scrollPage_of_not_leads hnow with ⟨hlooks, hrests⟩
    refine hstart.looks hlooks hresume hready ?_ ?_
    · intro h
      have hbefore := hx.rests fun hdone => h ⟨hreported, hdone.2⟩
      exact ⟨hrests.bar.trans hbefore.1, hrests.barSets.trans hbefore.2⟩
    · intro _ hbase
      have hdone : Reported done :=
        Classical.byContradiction fun hdone => hnow ((hleads fun h => hdone h.1).mpr hbase)
      rw [hrests.barSets]
      exact hx.moved hdone hbase

theorem step_of_looks_eq_false (hx : x.Follows base done) {h : Happening α}
    (hrenewal : h.IsRenewal) (hlooks : x.window.looks h = false) :
    (x.step h).Follows base (done ++ [h]) := by
  have hother : forall top, h ≠ .pageScrolled top := by
    rintro top rfl
    cases hlooks
  rcases renewal_cases x.window hrenewal hlooks with hstays | ⟨d, page, heq⟩
  · rw [step_of_generation_eq x hstays.generation, hlooks, Bool.or_false]
    exact (hx.stays hstays (hx.ready.step h)).append hother
  · let due : State α := { x.window with fault := none, renderDue := false }
    have hdue : Follows base done { x with window := due } :=
      hx.stays ⟨rfl, rfl, Speaks.refl _⟩ (hx.ready.of_session_eq rfl)
    have hnext : (x.window.step h).generation ≠ x.window.generation := by
      rw [heq]
      exact Nat.succ_ne_self x.window.generation
    rw [step_of_generation_ne x hnext, hlooks, Bool.or_false, heq]
    exact (hdue.renewed d page).append hother

theorem step_pageScrolled (hx : x.Follows base done) {top : Amount α}
    (htop : top.toNumber = .ok Scalar.zero) :
    (x.step (.pageScrolled top)).Follows base (done ++ [.pageScrolled top]) := by
  let fresh : State α := { x.window with fault := none }
  have hfresh : Follows base done { x with window := fresh } :=
    hx.stays ⟨rfl, rfl, Speaks.refl _⟩ (hx.ready.of_session_eq rfl)
  have hgeneration : (x.window.step (.pageScrolled top)).generation = x.window.generation :=
    (goesOn_scrollPage fresh top).generation
  have hlooks : x.window.looks (.pageScrolled top) = true := rfl
  rw [step_of_generation_eq x hgeneration, hlooks, Bool.or_true]
  exact hfresh.scrolled htop (hx.ready.step (.pageScrolled top))

theorem step_answered (hx : x.Follows base done) {place : Nat} {answer : Value α}
    (hlooks : x.window.looks (.answered place answer) = true) :
    (x.step (.answered place answer)).Follows base (done ++ [.answered place answer]) := by
  rcases exists_of_looks x.window hlooks with ⟨report, restores, rfl, hread, hwaiting⟩
  have hstep := step_report x.window hwaiting report
  have htaken : Follows base done { x with window := x.window.taking place } :=
    hx.stays ⟨rfl, rfl, Speaks.refl _⟩ (hx.ready.of_session_eq rfl)
  have hready := hx.ready.step (.answered place (.object report))
  have hon := goesOn_takeReport (x.window.taking place) restores report
  rcases State.looks_takeReport htaken.ready rfl restores hread with ⟨hlook, hrests⟩
  rw [step_of_generation_eq x (generation_report x.window hwaiting report), hlooks, Bool.or_true]
  rw [hstep] at hready ⊢
  exact (htaken.reported hlook (congrArg Work.resumeAt hon.work) hready hrests).append nofun

theorem step (hx : x.Follows base done) {h : Happening α} (hrenewal : h.IsRenewal) :
    (x.step h).Follows base (done ++ [h]) := by
  cases hlooks : x.window.looks h with
  | false => exact hx.step_of_looks_eq_false hrenewal hlooks
  | true =>
      cases h with
      | pageScrolled top => exact hx.step_pageScrolled hrenewal
      | answered place answer => exact hx.step_answered hlooks
      | _ => cases hlooks

theorem run (hx : x.Follows base done) {happenings : List (Happening α)}
    (hrenewals : ∀ h ∈ happenings, h.IsRenewal) :
    (x.run happenings).Follows base (done ++ happenings) := by
  induction happenings generalizing x done with
  | nil =>
      rw [List.append_nil]
      exact hx
  | cons h rest ih =>
      have hfirst := hx.step (hrenewals h List.mem_cons_self)
      have hrest := ih hfirst fun e he => hrenewals e (List.mem_cons_of_mem h he)
      rw [List.append_assoc] at hrest
      exact hrest

/-- The editor has not been moved exactly if the page did not report, or does not lead. -/
theorem barSets_eq_iff (hx : x.Follows base done) :
    x.window.screen.barSets = base.screen.barSets ↔
      ¬ (Reported done ∧ Leads base.atStart.session) := by
  constructor
  · rintro heq ⟨hreported, hleads⟩
    have hmoved := hx.moved hreported hleads
    rw [heq] at hmoved
    exact Nat.lt_irrefl _ hmoved
  · exact fun h => (hx.rests h).2

/-- The fraction that is kept is the one that was remembered at first, exactly if nobody looked at
a page before the last one was put into the view, or the start of the page is there as well. -/
theorem resumeAt_eq_iff (hx : x.Follows base done) :
    x.window.resumeAt = base.session.coordinator.previewFraction ↔
      x.lookedBefore = false ∨
        base.atStart.session.seen = base.session.coordinator.previewFraction := by
  rw [hx.resumeAt]
  cases x.lookedBefore with
  | false => simp
  | true => simp

theorem start (hbase : base.IsReady)
    (hrenders : (base.step .renderFired).generation ≠ base.generation) :
    Follows base [] ⟨base.stepFresh .renderFired, false, false⟩ := by
  rcases renewal_cases base (h := .renderFired) trivial rfl with hstays | ⟨d, page, heq⟩
  · exact absurd hstays.generation hrenders
  · have hfresh : base.stepFresh .renderFired =
        (State.renewed { base with fault := none, renderDue := false } d page).atStart := by
      rw [← heq]
      exact if_neg hrenders
    rw [hfresh]
    exact {
      ready := ⟨hbase.named, hbase.sound⟩
      sync := rfl
      driver := Iff.rfl
      view := ⟨rfl, rfl, rfl, rfl⟩
      fraction := rfl
      resumeAt := rfl
      rests := fun _ => ⟨rfl, rfl⟩
      moved := nofun }

end Follows
end Resuming

/-- A fraction behind the start is asked for exactly if it is the one that is kept. -/
theorem restored_iff {f x : α} (hf : Scalar.lt Scalar.zero f = true) (restores : List α) :
    (if Scalar.lt Scalar.zero x then x :: restores else restores) = f :: restores ↔ x = f := by
  split
  · simp
  · next hstart =>
      constructor
      · intro heq
        exact absurd heq.symm (List.cons_ne_self f restores)
      · rintro rfl
        exact absurd hf hstart

/-- What a report on the page that is shown asks this page for. -/
theorem restores_report {v : State α} (hready : v.IsReady)
    (hpage : v.screen.view.hasPage = true) {found : Option (Metrics α)}
    (hfound : v.session.metrics .preview = .ok found) {place : Nat}
    (hwaiting : v.waiting[place]? = some (.report v.generation true))
    {report : List (List Char × Value α)} (hread : isReadable report = true) :
    (v.stepFresh (.answered place (.object report))).screen.restores =
      if Scalar.lt Scalar.zero v.resumeAt then v.resumeAt :: v.screen.restores
      else v.screen.restores := by
  have hfresh : v.stepFresh (.answered place (.object report)) =
      (v.taking place).takeReport true report :=
    (if_pos (generation_report v hwaiting report)).trans (step_report v hwaiting report)
  have htaken : (v.taking place).IsReady := hready.of_session_eq rfl
  rw [hfresh]
  exact State.restores_takeReport htaken rfl hpage hfound hread

/-- The text is rendered anew, once or several times, while the reader is behind the start of the
page and nobody scrolls. When a page has been measured, it is scrolled back to where the reader was
and the editor stays where it is, exactly if the coordinator did not look at a page before the last
one came, and no page reported to a coordinator that lets the page lead. -/
theorem position_kept_iff {text : List Char} {settings : Settings α} {document : Option Path}
    {folder : Path} {sources : List (List Char)} {today : Document.Date} {w base : State α}
    (hstart : State.start text settings document folder sources today = .ok w)
    {earlier : List (Happening α)} (hbase : base = w.runFresh earlier)
    (hrenders : (base.step .renderFired).generation ≠ base.generation)
    (hbehind : Scalar.lt Scalar.zero base.session.coordinator.previewFraction = true)
    (hpage : base.screen.view.hasPage = true) {found : Option (Metrics α)}
    (hfound : base.atStart.session.metrics .preview = .ok found)
    {before rest : List (Happening α)} {place : Nat} {report : List (List Char × Value α)}
    (hrenewals : ∀ h ∈ before ++ .answered place (.object report) :: rest, h.IsRenewal)
    {v : State α} (hv : v = (base.stepFresh .renderFired).runFresh before)
    (hwaiting : v.waiting[place]? = some (.report v.generation true))
    (hread : isReadable report = true) :
    let f := base.session.coordinator.previewFraction
    let after := v.stepFresh (.answered place (.object report))
    after.screen.restores = f :: v.screen.restores ∧
        (after.runFresh rest).screen.barSets = base.screen.barSets ↔
      ((Resuming.run ⟨base.stepFresh .renderFired, false, false⟩ before).lookedBefore = false ∨
        base.atStart.session.seen = f) ∧
      ¬ (Reported (before ++ .answered place (.object report) :: rest) ∧
        Leads base.atStart.session) := by
  intro f after
  have hready : base.IsReady := hbase ▸ (State.IsReady.start hstart).runFresh earlier
  let x := Resuming.run ⟨base.stepFresh .renderFired, false, false⟩ before
  have hx : x.Follows base before :=
    (Resuming.Follows.start hready hrenders).run fun h hmem =>
      hrenewals h (List.mem_append_left _ hmem)
  have hwindow : x.window = v := (Resuming.window_run _ before).trans hv.symm
  have hall : (x.run (.answered place (.object report) :: rest)).Follows base
      (before ++ .answered place (.object report) :: rest) :=
    hx.run fun h hmem => hrenewals h (List.mem_append_right _ hmem)
  have hlast : (x.run (.answered place (.object report) :: rest)).window = after.runFresh rest := by
    rw [Resuming.window_run, hwindow]
    rfl
  have hrestored : after.screen.restores = f :: v.screen.restores ↔
      x.lookedBefore = false ∨ base.atStart.session.seen = f := by
    have hvready : v.IsReady := hwindow ▸ hx.ready
    have hvpage : v.screen.view.hasPage = true := by
      rw [← hwindow, hx.view.hasPage, hpage]
    have hvfound : v.session.metrics .preview = .ok found := by
      rw [← hwindow, hx.metrics_preview, hfound]
    rw [restores_report hvready hvpage hvfound hwaiting hread, restored_iff hbehind, ← hwindow]
    exact hx.resumeAt_eq_iff
  rw [hrestored, ← hlast, hall.barSets_eq_iff]

/-- One rendering, whose page is measured before it reports: the reader is taken back to half the
way. -/
theorem position_kept_iff_of_one_rendering :
    let earlier : List (Happening Float) :=
      [.pageSized (.whole 2000) (.whole 500), .pageScrolled (.whole 750), .typed "b".toList]
    let before : List (Happening Float) := [.loaded true, .answered 0 (.list [])]
    let report : List (List Char × Value Float) := [("pageHeight".toList, .int 1000)]
    exists w : State Float,
      State.start "a".toList .default none ⟨.absolute, []⟩ [] ⟨2026, 9, 19⟩ = .ok w ∧
      let base := w.runFresh earlier
      let v := (base.stepFresh .renderFired).runFresh before
      let f := base.session.coordinator.previewFraction
      let after := v.stepFresh (.answered 0 (.object report))
      (base.step .renderFired).generation ≠ base.generation ∧ Scalar.lt Scalar.zero f = true ∧
      base.screen.view.hasPage = true ∧
      (base.atStart.session.metrics .preview).isOk = true ∧
      v.waiting[0]? = some (.report v.generation true) ∧ isReadable report = true ∧
      (after.screen.restores = f :: v.screen.restores ∧
          (after.runFresh []).screen.barSets = base.screen.barSets ↔
        ((Resuming.run ⟨base.stepFresh .renderFired, false, false⟩ before).lookedBefore = false ∨
          base.atStart.session.seen = f) ∧
        ¬ (Reported (before ++ [.answered 0 (.object report)]) ∧
          Leads base.atStart.session)) := by
  intro earlier before report
  have hopens : opensWith
      (State.start "a".toList .default none ⟨.absolute, []⟩ [] ⟨2026, 9, 19⟩)
      (fun w : State Float =>
        let base := w.runFresh earlier
        let v := (base.stepFresh .renderFired).runFresh before
        decide ((base.step .renderFired).generation ≠ base.generation ∧
          Scalar.lt Scalar.zero base.session.coordinator.previewFraction = true ∧
          base.screen.view.hasPage = true ∧
          (base.atStart.session.metrics .preview).isOk = true ∧
          v.waiting[0]? = some (.report v.generation true) ∧ isReadable report = true)) = true := by
    decide +kernel
  rcases exists_of_opensWith hopens with ⟨w, hstart, hruns⟩
  rcases of_decide_eq_true hruns with ⟨hrenders, hbehind, hpage, hok, hwaiting, hread⟩
  refine ⟨w, hstart, hrenders, hbehind, hpage, hok, hwaiting, hread, ?_⟩
  cases hfound : (w.runFresh earlier).atStart.session.metrics .preview with
  | error e =>
      rw [hfound] at hok
      cases hok
  | ok found =>
      have hrenewals : ∀ h ∈ before ++ [.answered 0 (.object report)], h.IsRenewal := by
        intro h hmem
        simp only [before, List.cons_append, List.nil_append, List.mem_cons,
          List.not_mem_nil, or_false] at hmem
        rcases hmem with rfl | rfl | rfl <;> trivial
      exact position_kept_iff hstart rfl hrenders hbehind hpage hfound hrenewals rfl hwaiting hread

/-- A fresh page reports that it stands at its start, and the text is rendered again before the
page was measured. The scroll bar of the editor is set, and the last page is not scrolled back. -/
theorem position_lost_of_two_renderings :
    let earlier : List (Happening Float) :=
      [.editorSized (.whole 100) (.whole 10), .pageSized (.whole 2000) (.whole 500),
       .pageScrolled (.whole 750), .idleFired, .typed "b".toList]
    let before : List (Happening Float) :=
      [.pageScrolled (.whole 0), .typed "c".toList, .renderFired, .loaded true,
       .answered 0 (.list [])]
    let report : List (List Char × Value Float) :=
      [("pageHeight".toList, .int 1000), ("pageTop".toList, .int 0),
       ("headings".toList, .list [])]
    (∀ h ∈ before, h.IsRenewal) ∧ isReadable report = true ∧
    exists w : State Float,
      State.start "a".toList .default none ⟨.absolute, []⟩ [] ⟨2026, 9, 19⟩ = .ok w ∧
      let base := w.runFresh earlier
      let v := (base.stepFresh .renderFired).runFresh before
      let after := v.stepFresh (.answered 0 (.object report))
      (base.step .renderFired).generation ≠ base.generation ∧
        Scalar.lt Scalar.zero base.session.coordinator.previewFraction = true ∧
        v.waiting = [.report v.generation true] ∧ after.waiting = [] ∧
        after.screen.restores.length = v.screen.restores.length ∧
        after.screen.barSets.length = base.screen.barSets.length + 1 := by
  intro earlier before report
  have hopens : opensWith
      (State.start "a".toList .default none ⟨.absolute, []⟩ [] ⟨2026, 9, 19⟩)
      (fun w : State Float =>
        let base := w.runFresh earlier
        let v := (base.stepFresh .renderFired).runFresh before
        let after := v.stepFresh (.answered 0 (.object report))
        decide ((base.step .renderFired).generation ≠ base.generation ∧
          Scalar.lt Scalar.zero base.session.coordinator.previewFraction = true ∧
          v.waiting = [.report v.generation true] ∧ after.waiting = [] ∧
          after.screen.restores.length = v.screen.restores.length ∧
          after.screen.barSets.length = base.screen.barSets.length + 1)) = true := by
    decide +kernel
  rcases exists_of_opensWith hopens with ⟨w, hstart, hruns⟩
  refine ⟨?_, by decide +kernel, w, hstart, of_decide_eq_true hruns⟩
  intro h hmem
  simp only [before, List.mem_cons, List.not_mem_nil, or_false] at hmem
  rcases hmem with rfl | rfl | rfl | rfl | rfl
  · exact isRenewal_pageScrolled_zero (by decide +kernel)
  · trivial
  · trivial
  · trivial
  · trivial

end Window
end Folio
