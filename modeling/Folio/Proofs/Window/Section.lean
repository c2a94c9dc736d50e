import Folio.Proofs.Window.Course

/-!
# The section that is read

The window tells its screen which heading is read when that is another one than before. Until
then the label keeps the title that the heading had, and a page that was put into the view in
the meantime has no heading marked (`Reading.Follows`).
-/

namespace Folio
namespace Window

open Number Viewport Files

variable {α : Type}

/-- The title of a heading among those of a document, without tags. -/
def titleIn (headings : List Heading.Entry) (id : Option (List Char)) : List Char :=
  match id.bind fun id => headings.find? fun e => e.id == id with
  | some e => withoutTags 0 e.text
  | none => []

theorem titleOf_eq (s : Screen α) (id : Option (List Char)) :
    s.titleOf id = titleIn s.headings id := rfl

/-- The heading that is read. -/
def State.reading (w : State α) : Option (List Char) :=
  w.session.coordinator.active.text?

/-- A window, and the window as it was when another heading came to be read. -/
structure Reading (α : Type) where
  window : State α
  told : State α

/-- Whether the headings on the screen are those of the document. -/
def State.IsLabelled (w : State α) : Prop :=
  exists d, w.current = some d ∧ w.screen.headings = d.headings

namespace Reading

/-- Whether a screen shows what it was told of the heading that is read. -/
structure Follows (x : Reading α) : Prop where
  named : IsNamed x.window.session.coordinator
  labelled : x.window.IsLabelled
  wasLabelled : x.told.IsLabelled
  label : x.window.screen.sectionLabel = titleIn x.told.screen.headings x.window.reading
  earlier : x.told.generation ≤ x.window.generation
  marked : x.told.generation = x.window.generation ->
    forall id, x.window.reading = some id -> some id ∈ x.window.screen.marks
  unmarked : x.told.generation ≠ x.window.generation -> x.window.screen.marks = []

/-- A window and when it told, one step on. -/
def move (x : Reading α) (v : State α) : Reading α where
  window := v
  told := if v.reading = x.window.reading then x.told else v

theorem move_of_reading_eq {x : Reading α} {v : State α} (h : v.reading = x.window.reading) :
    x.move v = ⟨v, x.told⟩ := by
  rw [move, if_pos h]

/-- Which heading is read depends on the coordinator alone. -/
theorem move_congr {w u : State α} (h : u.session = w.session) (told v : State α) :
    move ⟨u, told⟩ v = move ⟨w, told⟩ v := by
  have hreading : u.reading = w.reading := by
    rw [State.reading, h]
    rfl
  rw [move, move, hreading]

theorem move_of_reading_ne {x : Reading α} {v : State α} (h : v.reading ≠ x.window.reading) :
    x.move v = ⟨v, v⟩ := by
  rw [move, if_neg h]

end Reading

theorem State.IsLabelled.of_eq {w v : State α} (h : w.IsLabelled)
    (hcurrent : v.current = w.current) (hheadings : v.screen.headings = w.screen.headings) :
    v.IsLabelled := by
  rcases h with ⟨d, hd, heq⟩
  exact ⟨d, hcurrent.trans hd, hheadings.trans heq⟩

namespace Reading.Follows

variable {x : Reading α} {v : State α}

/-- As long as the same heading is read, the screen shows of it what it did. -/
theorem still (h : x.Follows) (hstill : Still x.window.session v.session)
    (hcurrent : v.current = x.window.current) (hgeneration : v.generation = x.window.generation) :
    (x.move v).Follows := by
  have hreading : v.reading = x.window.reading := congrArg Value.text? hstill.active
  have hmarks : v.screen.marks = x.window.screen.marks := hstill.screen.marks
  rw [move_of_reading_eq hreading]
  constructor
  · exact hstill.named h.named
  · exact h.labelled.of_eq hcurrent hstill.screen.headings
  · exact h.wasLabelled
  · rw [hreading]
    exact hstill.screen.label.trans h.label
  · rw [hgeneration]
    exact h.earlier
  · intro hsame id hid
    rw [hreading] at hid
    rw [hmarks]
    exact h.marked (hsame.trans hgeneration) id hid
  · intro hother
    rw [hgeneration] at hother
    exact hmarks.trans (h.unmarked hother)

/-- What else a window works on makes no difference. -/
theorem of_session_eq (h : x.Follows) (hsession : v.session = x.window.session)
    (hcurrent : v.current = x.window.current) (hgeneration : v.generation = x.window.generation) :
    Follows ⟨v, x.told⟩ := by
  have hreading : v.reading = x.window.reading := by
    rw [State.reading, hsession]
    rfl
  have hstill : Still x.window.session v.session := by
    rw [hsession]
    exact Still.refl _
  rw [← move_of_reading_eq hreading]
  exact h.still hstill hcurrent hgeneration

/-- Another heading is shown with the title that it has, and marked. -/
theorem told (h : x.Follows) (htold : Told x.window.session v.session)
    (hcurrent : v.current = x.window.current) : (x.move v).Follows := by
  have hreading : v.reading ≠ x.window.reading := htold.changed h.named
  have hlabelled : v.IsLabelled := h.labelled.of_eq hcurrent htold.headings
  rw [move_of_reading_ne hreading]
  constructor
  · exact htold.named h.named
  · exact hlabelled
  · exact hlabelled
  · exact htold.label.trans (titleOf_eq _ _)
  · exact Nat.le_refl _
  · intro _ id hid
    have hmarks : v.screen.marks = v.reading :: x.window.screen.marks := htold.marks
    rw [hmarks, hid]
    exact List.mem_cons_self
  · exact fun hother => absurd rfl hother

/-- A window that goes on with its page tells of another heading, or of none. -/
theorem goesOn (h : x.Follows) (hon : GoesOn Tells x.window v) : (x.move v).Follows := by
  have hcurrent : v.current = x.window.current := congrArg Work.current hon.work
  rcases hon.session with hstill | htold
  · exact h.still hstill hcurrent hon.generation
  · exact h.told htold hcurrent

/-- A fresh page has nothing marked, and the label stays. -/
theorem renewed (h : x.Follows) (d : Document.Rendered) (page : List Char) :
    (x.move (x.window.renewed d page)).Follows := by
  have hreading : (x.window.renewed d page).reading = x.window.reading := rfl
  rw [move_of_reading_eq hreading]
  constructor
  · exact h.named
  · exact ⟨d, rfl, rfl⟩
  · exact h.wasLabelled
  · exact h.label
  · exact Nat.le_succ_of_le h.earlier
  · intro hsame
    have hnext : x.told.generation = x.window.generation + 1 := hsame
    have hearlier := h.earlier
    omega
  · exact fun _ => rfl

end Reading.Follows

/-!
## Runs
-/

variable [Scalar α]

namespace Reading

/-- A window and when it told, after a happening. -/
def step (x : Reading α) (h : Happening α) : Reading α :=
  x.move (x.window.step h)

/-- A window and when it told, after a list of happenings. -/
def run (x : Reading α) (happenings : List (Happening α)) : Reading α :=
  happenings.foldl step x

theorem window_run (x : Reading α) (happenings : List (Happening α)) :
    (x.run happenings).window = x.window.run happenings := by
  induction happenings generalizing x with
  | nil => rfl
  | cons h rest ih => exact ih (x.step h)

/-- The text was rendered, or could not be. -/
theorem Follows.render {x : Reading α} (h : x.Follows) : (x.move x.window.render).Follows := by
  rcases render_cases x.window with ⟨hon, -⟩ | ⟨d, page, -, -, heq⟩
  · exact h.goesOn hon.still.tells
  · rw [heq]
    exact h.renewed d page

theorem Follows.step {x : Reading α} (hx : x.Follows) (h : Happening α) :
    (x.step h).Follows := by
  have hheard : Follows ⟨x.window.heard h, x.told⟩ :=
    hx.of_session_eq (State.session_heard _ h) (congrArg Work.current (State.work_heard _ h))
      (congrArg Work.generation (State.work_heard _ h))
  unfold Reading.step
  rw [← move_congr (State.session_heard x.window h)]
  rcases step_cases x.window h with hon | hedits | hrenders
  · exact hheard.goesOn hon
  · rw [move_of_reading_eq (by rw [State.reading, hedits.session]; rfl)]
    exact hheard.of_session_eq hedits.session (congrArg Work.current hedits.work)
      (congrArg Work.generation hedits.work)
  · have hfresh : Follows ⟨{ x.window with fault := none, renderDue := false }, x.told⟩ :=
      hx.of_session_eq rfl rfl rfl
    rw [move_congr (State.session_heard x.window h), hrenders.eq]
    exact hfresh.render

theorem Follows.run {x : Reading α} (hx : x.Follows) (happenings : List (Happening α)) :
    (x.run happenings).Follows := by
  induction happenings generalizing x with
  | nil => exact hx
  | cons h rest ih => exact ih (hx.step h)

/-- When a window is opened no heading is read. -/
theorem follows_start {text : List Char} {settings : Settings α} {document : Option Path}
    {folder : Path} {sources : List (List Char)} {today : Document.Date} {w : State α}
    (hstart : State.start text settings document folder sources today = .ok w) :
    Follows ⟨w, w⟩ := by
  rcases start_cases hstart with ⟨controls, d, page, -, -, rfl⟩
  constructor
  · exact ⟨Or.inl rfl, [], rfl, nofun⟩
  · exact ⟨d, rfl, rfl⟩
  · exact ⟨d, rfl, rfl⟩
  · rfl
  · exact Nat.le_refl _
  · rintro - id ⟨⟩
  · exact fun _ => rfl

end Reading

/-- The label shows the title that the heading has in the document, exactly if it had that title
when it came to be read; and the heading is marked in the page, exactly if it came to be read
after that page was put into the view. -/
theorem section_shown_iff {text : List Char} {settings : Settings α} {document : Option Path}
    {folder : Path} {sources : List (List Char)} {today : Document.Date} {w : State α}
    (hstart : State.start text settings document folder sources today = .ok w)
    (happenings : List (Happening α)) :
    let v := w.run happenings
    let told := (Reading.run ⟨w, w⟩ happenings).told
    exists d earlier, v.current = some d ∧ told.current = some earlier ∧
      (v.screen.sectionLabel = titleIn d.headings v.reading ↔
        titleIn earlier.headings v.reading = titleIn d.headings v.reading) ∧
      forall id, v.reading = some id ->
        (some id ∈ v.screen.marks ↔ told.generation = v.generation) := by
  intro v told
  have hwindow : (Reading.run ⟨w, w⟩ happenings).window = v :=
    Reading.window_run ⟨w, w⟩ happenings
  have hfollows : (Reading.run ⟨w, w⟩ happenings).Follows :=
    (Reading.follows_start hstart).run happenings
  rcases hfollows.labelled with ⟨d, hd, -⟩
  rcases hfollows.wasLabelled with ⟨earlier, hearlier, hheadings⟩
  have hlabel := hfollows.label
  have hmarked := hfollows.marked
  have hunmarked := hfollows.unmarked
  rw [hwindow] at hd hlabel hmarked hunmarked
  rw [hheadings] at hlabel
  refine ⟨d, earlier, hd, hearlier, by rw [hlabel], ?_⟩
  intro id hid
  refine ⟨fun hmem => Decidable.byContradiction fun hother => ?_, fun hsame => hmarked hsame id hid⟩
  rw [hunmarked hother] at hmem
  cases hmem

/-- What a page with one heading at its start reports. -/
def shortReport : Value Float :=
  .object
    [("pageHeight".toList, .int 1000), ("pageTop".toList, .int 0),
     ("headings".toList, .list [.list [.text "a-1".toList, .int 0]])]

/-- The report of the first page lets its heading be read. -/
theorem section_shown_iff_of_one_page :
    let settings : Settings Float := { Settings.default with showToc := .bool true }
    let happenings : List (Happening Float) :=
      [.pageSized (.whole 2000) (.whole 500), .loaded true, .answered 0 (.list []),
       .answered 0 shortReport]
    exists w : State Float,
      State.start "# A".toList settings none ⟨.absolute, []⟩ [] ⟨2026, 9, 19⟩ = .ok w ∧
      let v := w.run happenings
      let told := (Reading.run ⟨w, w⟩ happenings).told
      v.reading = some "a-1".toList ∧
      exists d earlier, v.current = some d ∧ told.current = some earlier ∧
        (v.screen.sectionLabel = titleIn d.headings v.reading ↔
          titleIn earlier.headings v.reading = titleIn d.headings v.reading) ∧
        forall id, v.reading = some id ->
          (some id ∈ v.screen.marks ↔ told.generation = v.generation) := by
  intro settings happenings
  have hopens : opensWith
      (State.start "# A".toList settings none ⟨.absolute, []⟩ [] ⟨2026, 9, 19⟩)
      (fun w : State Float => decide ((w.run happenings).reading = some "a-1".toList)) = true := by
    decide +kernel
  rcases exists_of_opensWith hopens with ⟨w, hstart, hreading⟩
  exact ⟨w, hstart, of_decide_eq_true hreading, section_shown_iff hstart happenings⟩

/-- A heading gets another title under the id that it had. When the report of the new page has
been taken, the label still shows the old title, and nothing is marked in the new page. -/
theorem section_stale_of_renamed_heading :
    let settings : Settings Float := { Settings.default with showToc := .bool true }
    let happenings : List (Happening Float) :=
      [.pageSized (.whole 2000) (.whole 500), .loaded true, .answered 0 (.list []),
       .answered 0 shortReport, .typed "# a".toList, .renderFired, .loaded true,
       .answered 0 (.list [])]
    exists w : State Float,
      State.start "# A".toList settings none ⟨.absolute, []⟩ [] ⟨2026, 9, 19⟩ = .ok w ∧
      let before := w.run happenings
      let v := before.step (.answered 0 shortReport)
      before.waiting = [.report 2 true] ∧ v.generation = 2 ∧ v.renderDue = false ∧
        v.settings.showsToc = true ∧ v.reading = some "a-1".toList ∧
        v.current.map (fun d => titleIn d.headings v.reading) = some "a".toList ∧
        v.screen.sectionLabel = "A".toList ∧ v.screen.marks = [] := by
  intro settings happenings
  have hopens : opensWith
      (State.start "# A".toList settings none ⟨.absolute, []⟩ [] ⟨2026, 9, 19⟩)
      (fun w : State Float =>
        let before := w.run happenings
        let v := before.step (.answered 0 shortReport)
        decide (before.waiting = [.report 2 true] ∧ v.generation = 2 ∧ v.renderDue = false ∧
          v.settings.showsToc = true ∧ v.reading = some "a-1".toList ∧
          v.current.map (fun d => titleIn d.headings v.reading) = some "a".toList ∧
          v.screen.sectionLabel = "A".toList ∧ v.screen.marks = [])) = true := by
    decide +kernel
  rcases exists_of_opensWith hopens with ⟨w, hstart, hruns⟩
  exact ⟨w, hstart, of_decide_eq_true hruns⟩

end Window
end Folio
