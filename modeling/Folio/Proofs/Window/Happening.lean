import Folio.Window.State

/-!
# What happens to a window

A run of a window is a list of happenings: what the user does, what the page reports, and the
timers. Answers of the page and looks at it that are due later come in any order, so that a
happening names the place of the one that comes next.
-/

namespace Folio
namespace Window

open Number Viewport

/-- What can happen to a window. -/
inductive Happening (α : Type) where
  /-- The text is replaced. -/
  | typed (s : List Char)
  /-- A control is set. -/
  | chosen (c : Choice α)
  /-- Settings are named with their values. -/
  | changed (fields : List (List Char × Value α))
  | zoomedIn
  | zoomedOut
  | zoomReset
  | synced (on : Bool)
  | editorScrolled (v : Amount α)
  | pageScrolled (top : Amount α)
  | resized
  /-- The page was loaded, or could not be. -/
  | loaded (ok : Bool)
  /-- The page answers who waits at a place. -/
  | answered (place : Nat) (v : Value α)
  /-- The look at a page comes that is due at a place. -/
  | visited (place : Nat)
  /-- All looks at pages come that are due. -/
  | visitedAll
  | renderFired
  | fitFired
  | idleFired
  /-- The editor gets another length. -/
  | editorSized (maximum pageStep : Amount α)
  /-- The page or the view gets another height. -/
  | pageSized (contents height : Amount α)
  /-- The scroll bar appears or vanishes. -/
  | barShown (on : Bool)
  /-- The page appears or vanishes. -/
  | pageShown (on : Bool)

variable {α : Type}

namespace State

/-- Take the look that is due at a place. -/
def visitedAt (w : State α) (place : Nat) : State α :=
  match w.visits[place]? with
  | none => w
  | some v => { w with visits := w.visits.eraseIdx place }.visit v.generation false

variable [Scalar α]

/-- Give an answer to who waited for it. -/
def serve (w : State α) (who : Waiting) (answer : Value α) : State α :=
  match who with
  | .fitting => w.fit answer
  | .report generation restores => w.reported generation restores answer

/-- The page answered who waits at a place. -/
def answeredAt (w : State α) (place : Nat) (answer : Value α) : State α :=
  match w.waiting[place]? with
  | none => w
  | some who => { w with waiting := w.waiting.eraseIdx place }.serve who answer

/-- Answers that come in the order of the questions go to who waited longest. -/
theorem answeredAt_zero (w : State α) (answer : Value α) :
    w.answeredAt 0 answer = w.answered answer := by
  unfold answeredAt answered
  cases w.waiting with
  | nil => rfl
  | cons who rest => cases who <;> rfl

/-- The window after a happening. What ended the step before does not end this one. -/
def step (w : State α) (h : Happening α) : State α :=
  let w := { w with fault := none }
  match h with
  | .typed s => w.setText s
  | .chosen c => w.choose c
  | .changed fields => w.change fields
  | .zoomedIn => w.zoomBy (·.zoomIn)
  | .zoomedOut => w.zoomBy (·.zoomOut)
  | .zoomReset => w.zoomBy (·.resetZoom)
  | .synced on => w.setSync on
  | .editorScrolled v => w.scrollEditor v
  | .pageScrolled top => w.scrollPage top
  | .resized => w.resized
  | .loaded ok => w.loaded ok
  | .answered place v => w.answeredAt place v
  | .visited place => w.visitedAt place
  | .visitedAll => w.runVisits
  | .renderFired => w.fireRender
  | .fitFired => w.fireFit
  | .idleFired => w.fireIdle
  | .editorSized maximum pageStep =>
      w.onScreen fun s => { s with bar := { s.bar with maximum := maximum, pageStep := pageStep } }
  | .pageSized contents height =>
      w.onScreen fun s => { s with view := { s.view with contents := contents, height := height } }
  | .barShown on => w.onScreen fun s => { s with bar := { s.bar with isShown := on } }
  | .pageShown on => w.onScreen fun s => { s with view := { s.view with hasPage := on } }

/-- The window after a list of happenings. -/
def run (w : State α) (happenings : List (Happening α)) : State α :=
  happenings.foldl step w

@[simp] theorem run_nil (w : State α) : w.run [] = w := rfl

@[simp] theorem run_cons (w : State α) (h : Happening α) (rest : List (Happening α)) :
    w.run (h :: rest) = (w.step h).run rest := rfl

/-- The window when it has taken an answer from those that it waits for. -/
def heard (w : State α) (h : Happening α) : State α :=
  match h with
  | .answered place _ => { w with waiting := w.waiting.eraseIdx place }
  | _ => w

omit [Scalar α] in
@[simp] theorem session_heard (w : State α) (h : Happening α) :
    (w.heard h).session = w.session := by
  cases h <;> rfl

end State

/-- Whether a window opens, and then has a property. -/
def opensWith (opened : Except Fault (State α)) (p : State α -> Bool) : Bool :=
  match opened with
  | .ok w => p w
  | .error _ => false

theorem exists_of_opensWith {opened : Except Fault (State α)} {p : State α -> Bool}
    (h : opensWith opened p = true) : exists w, opened = .ok w ∧ p w = true := by
  cases opened with
  | error f => cases h
  | ok w => exact ⟨w, rfl, h⟩

end Window
end Folio
