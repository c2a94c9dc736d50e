import Folio.Proofs.Window.Course

/-!
# Answers about a page that was replaced

For each answer that a window waits for it is kept which page was asked (`Asking`). A report
names the page that it is about, so that it is dropped when that page was replaced. The widths
of display math name none: they are taken for those of the page that is shown, whichever page
they were measured on.
-/

namespace Folio
namespace Window

open Number Viewport Files

variable {α : Type}

/-- A window, and for each answer that it waits for the generation of the page that was asked. -/
structure Asking (α : Type) where
  window : State α
  pages : List Nat

/-- Whether the pages that were asked are those that the reports are about. -/
structure Asking.IsKept (x : Asking α) : Prop where
  length : x.pages.length = x.window.waiting.length
  report : forall (place generation : Nat) (restores : Bool),
    x.window.waiting[place]? = some (Waiting.report generation restores) ->
      x.pages[place]? = some generation

namespace Asking

/-- The pages of the answers that are still to come when one has come. -/
def kept (x : Asking α) (h : Happening α) : List Nat :=
  match h with
  | .answered place _ => x.pages.eraseIdx place
  | _ => x.pages

theorem IsKept.heard {x : Asking α} (hx : x.IsKept) (h : Happening α) :
    IsKept ⟨x.window.heard h, x.kept h⟩ := by
  cases h with
  | answered taken v =>
      constructor
      · simp only [kept, State.heard, List.length_eraseIdx, hx.length]
      · intro place generation restores hplace
        simp only [kept, State.heard, List.getElem?_eraseIdx] at hplace ⊢
        split
        · next hbefore =>
            rw [if_pos hbefore] at hplace
            exact hx.report place generation restores hplace
        · next hbehind =>
            rw [if_neg hbehind] at hplace
            exact hx.report (place + 1) generation restores hplace
  | _ => exact hx

/-- Questions that come behind the others are about one page. -/
theorem IsKept.append {w v : State α} {pages : List Nat} (hw : IsKept ⟨w, pages⟩)
    {asked : List Waiting} (hwaiting : v.waiting = w.waiting ++ asked)
    (hasked : forall generation restores, Waiting.report generation restores ∈ asked ->
      generation = v.generation) :
    IsKept ⟨v, pages ++ List.replicate (v.waiting.length - pages.length) v.generation⟩ := by
  have hlength : pages.length = w.waiting.length := hw.length
  have hnew : v.waiting.length - pages.length = asked.length := by
    rw [hwaiting, hlength, List.length_append, Nat.add_sub_cancel_left]
  rw [hnew]
  constructor
  · simp only [hwaiting, List.length_append, List.length_replicate, hlength]
  · intro place generation restores hplace
    simp only [hwaiting, List.getElem?_append] at hplace
    simp only [List.getElem?_append, hlength]
    split
    · next hold =>
        rw [if_pos hold] at hplace
        exact hw.report place generation restores hplace
    · next hnew =>
        rw [if_neg hnew] at hplace
        rcases List.getElem?_eq_some_iff.mp hplace with ⟨hinside, hat⟩
        rw [List.getElem?_replicate, if_pos hinside,
          hasked generation restores (List.mem_of_getElem hat)]

variable [Scalar α]

/-- A window with its questions after a happening. -/
def step (x : Asking α) (h : Happening α) : Asking α :=
  let kept := x.kept h
  let window := x.window.step h
  ⟨window, kept ++ List.replicate (window.waiting.length - kept.length) window.generation⟩

/-- A window with its questions after a list of happenings. -/
def run (x : Asking α) (happenings : List (Happening α)) : Asking α :=
  happenings.foldl step x

theorem window_run (x : Asking α) (happenings : List (Happening α)) :
    (x.run happenings).window = x.window.run happenings := by
  induction happenings generalizing x with
  | nil => rfl
  | cons h rest ih => exact ih (x.step h)

theorem IsKept.step {x : Asking α} (hx : x.IsKept) (h : Happening α) : (x.step h).IsKept := by
  rcases waiting_step x.window h with ⟨asked, hwaiting, hasked⟩
  exact (hx.heard h).append hwaiting hasked

theorem IsKept.run {x : Asking α} (hx : x.IsKept) (happenings : List (Happening α)) :
    (x.run happenings).IsKept := by
  induction happenings generalizing x with
  | nil => exact hx
  | cons h rest ih => exact ih (hx.step h)

/-- A window that was opened waits for no answer. -/
theorem isKept_start {text : List Char} {settings : Settings α} {document : Option Path}
    {folder : Path} {sources : List (List Char)} {today : Document.Date} {w : State α}
    (hstart : State.start text settings document folder sources today = .ok w) :
    IsKept ⟨w, []⟩ := by
  rcases start_cases hstart with ⟨controls, d, page, -, -, rfl⟩
  exact ⟨rfl, nofun⟩

end Asking

/-!
## What an answer does
-/

variable [Scalar α]

omit [Scalar α] in
/-- A question is recorded on the screen, or it ends the step. -/
theorem ask_ne (w : State α) {v : State α} (script : Script α) (who : Option Waiting)
    (hscreen : v.screen = w.screen) (hfault : v.fault = none) : w.ask script who ≠ v := by
  intro heq
  unfold State.ask at heq
  split at heq
  · next hpage =>
      have hrecord : (w.screen.run script).record = v.screen.record :=
        congrArg (fun v => v.screen.record) heq
      rw [hscreen, Screen.run, if_pos hpage] at hrecord
      exact List.cons_ne_self _ _ hrecord
  · have hended : some Fault.noPage = v.fault := congrArg State.fault heq
    rw [hfault] at hended
    cases hended

theorem fit_of_plan_eq_nil (w : State α) {answer : Value α} {ms : List (Fit.Measurement α)}
    (hread : Fit.measurements answer = .ok ms) (hplan : Fit.plan ms = []) :
    w.fit answer = { w with fitter := w.fitter.reset } := by
  have hempty : (w.fitter.plan ms).1.isEmpty = true := List.isEmpty_iff.mpr hplan
  have hreset : (w.fitter.plan ms).2 = w.fitter.reset := by
    rw [Fit.Fitter.plan, hplan]
    rfl
  unfold State.fit
  rw [hread]
  simp only
  rw [if_pos hempty, hreset]

theorem fit_of_plan_ne_nil (w : State α) {answer : Value α} {ms : List (Fit.Measurement α)}
    (hread : Fit.measurements answer = .ok ms) (hplan : Fit.plan ms ≠ []) :
    w.fit answer =
      { w with fitter := (w.fitter.plan ms).2 }.ask (.shrink (Fit.plan ms)) none := by
  unfold State.fit
  rw [hread]
  exact if_neg fun hempty => hplan (List.isEmpty_iff.mp hempty)

/-- Widths change nothing exactly if all that was measured fits, and did so before. -/
theorem fit_eq_iff (w : State α) (answer : Value α) (hfault : w.fault = none) :
    w.fit answer = w ↔
      exists ms, Fit.measurements answer = .ok ms ∧ Fit.plan ms = [] ∧ w.fitter.applied = [] := by
  constructor
  · intro heq
    cases hread : Fit.measurements answer with
    | error e =>
        rw [State.fit, hread] at heq
        have hended : some (Fault.conversion e) = w.fault := congrArg State.fault heq
        rw [hfault] at hended
        cases hended
    | ok ms =>
        refine ⟨ms, rfl, ?_⟩
        by_cases hplan : Fit.plan ms = []
        · rw [fit_of_plan_eq_nil w hread hplan] at heq
          exact ⟨hplan, (congrArg (fun v => v.fitter.applied) heq).symm⟩
        · rw [fit_of_plan_ne_nil w hread hplan] at heq
          exact absurd heq (ask_ne _ _ _ rfl hfault)
  · rintro ⟨ms, hread, hplan, happlied⟩
    have hreset : w.fitter.reset = w.fitter := by
      rw [Fit.Fitter.reset, ← happlied]
    rw [fit_of_plan_eq_nil w hread hplan, hreset]

theorem reported_of_ne {w : State α} {generation : Nat} (h : generation ≠ w.generation)
    (restores : Bool) (answer : Value α) : w.reported generation restores answer = w := by
  unfold State.reported
  split
  · exact if_neg h
  · rfl

/-- The answer about a page that was replaced changes nothing, exactly if it is a report, or if
all that was measured fits and nothing was shrunk before. -/
theorem stale_answer_dropped_iff {text : List Char} {settings : Settings α}
    {document : Option Path} {folder : Path} {sources : List (List Char)} {today : Document.Date}
    {w : State α} (hstart : State.start text settings document folder sources today = .ok w)
    (happenings : List (Happening α)) {place page : Nat}
    (hasked : (Asking.run ⟨w, []⟩ happenings).pages[place]? = some page)
    (hreplaced : page ≠ (w.run happenings).generation) (answer : Value α) :
    let v := w.run happenings
    v.step (.answered place answer) =
        { v with fault := none, waiting := v.waiting.eraseIdx place } ↔
      v.waiting[place]? ≠ some .fitting ∨
        exists ms, Fit.measurements answer = .ok ms ∧ Fit.plan ms = [] ∧ v.fitter.applied = [] := by
  intro v
  have hwindow : (Asking.run ⟨w, []⟩ happenings).window = v := Asking.window_run ⟨w, []⟩ happenings
  have hkept : (Asking.run ⟨w, []⟩ happenings).IsKept := (Asking.isKept_start hstart).run happenings
  simp only [State.step, State.answeredAt]
  cases hwho : v.waiting[place]? with
  | none =>
      -- no answer is due at the place, though a page was asked there
      have houtside := List.getElem?_eq_none_iff.mp hwho
      rcases List.getElem?_eq_some_iff.mp hasked with ⟨hinside, -⟩
      rw [hkept.length, hwindow] at hinside
      omega
  | some who =>
      cases who with
      | fitting =>
          rw [show (some Waiting.fitting ≠ some .fitting) = False by simp, false_or]
          exact fit_eq_iff _ answer rfl
      | report generation restores =>
          rw [← hwindow] at hwho
          have hpage := hkept.report place generation restores hwho
          rw [hasked] at hpage
          cases hpage
          refine ⟨fun _ => Or.inl (by rintro ⟨⟩), fun _ => ?_⟩
          exact reported_of_ne (w := { v with fault := none, waiting := v.waiting.eraseIdx place })
            hreplaced restores answer

/-- The report of a page comes when another page is shown. -/
theorem stale_answer_dropped_iff_of_report :
    let happenings : List (Happening Float) := [.loaded true, .typed "b".toList, .renderFired]
    exists w : State Float,
      State.start "a".toList .default none ⟨.absolute, []⟩ [] ⟨2026, 9, 19⟩ = .ok w ∧
      (Asking.run ⟨w, []⟩ happenings).pages[1]? = some 1 ∧ 1 ≠ (w.run happenings).generation ∧
      forall answer : Value Float,
        let v := w.run happenings
        v.step (.answered 1 answer) =
            { v with fault := none, waiting := v.waiting.eraseIdx 1 } ↔
          v.waiting[1]? ≠ some .fitting ∨
            exists ms, Fit.measurements answer = .ok ms ∧ Fit.plan ms = [] ∧
              v.fitter.applied = [] := by
  intro happenings
  have hopens : opensWith (State.start "a".toList .default none ⟨.absolute, []⟩ [] ⟨2026, 9, 19⟩)
      (fun w : State Float => decide ((Asking.run ⟨w, []⟩ happenings).pages[1]? = some 1 ∧
        1 ≠ (w.run happenings).generation)) = true := by
    decide
  rcases exists_of_opensWith hopens with ⟨w, hstart, hruns⟩
  rcases of_decide_eq_true hruns with ⟨hasked, hreplaced⟩
  exact ⟨w, hstart, hasked, hreplaced,
    stale_answer_dropped_iff hstart happenings hasked hreplaced⟩

/-- Widths of the first page are taken, and lead to a script, when the second page is shown. -/
theorem stale_widths_applied :
    let happenings : List (Happening Float) :=
      [.loaded true, .typed "$$y$$".toList, .renderFired]
    let widths : Value Float :=
      .list [.object [("index".toList, .int 0), ("natural".toList, .int 200),
        ("container".toList, .int 100)]]
    exists w : State Float,
      State.start "$$x$$".toList .default none ⟨.absolute, []⟩ [] ⟨2026, 9, 19⟩ = .ok w ∧
      let v := w.run happenings
      let after := v.step (.answered 0 widths)
      (Asking.run ⟨w, []⟩ happenings).pages[0]? = some 1 ∧ v.generation = 2 ∧
        v.fitter.applied.length = 0 ∧ after.fitter.applied.length = 1 ∧
        after.screen.record.length = v.screen.record.length + 1 := by
  intro happenings widths
  have hopens : opensWith
      (State.start "$$x$$".toList .default none ⟨.absolute, []⟩ [] ⟨2026, 9, 19⟩)
      (fun w : State Float =>
        let v := w.run happenings
        let after := v.step (.answered 0 widths)
        decide ((Asking.run ⟨w, []⟩ happenings).pages[0]? = some 1 ∧ v.generation = 2 ∧
          v.fitter.applied.length = 0 ∧ after.fitter.applied.length = 1 ∧
          after.screen.record.length = v.screen.record.length + 1)) = true := by
    decide +kernel
  rcases exists_of_opensWith hopens with ⟨w, hstart, hruns⟩
  exact ⟨w, hstart, of_decide_eq_true hruns⟩

end Window
end Folio
