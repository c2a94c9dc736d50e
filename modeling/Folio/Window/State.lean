import Folio.Document.Page
import Folio.Document.Sources
import Folio.Window.Controls
import Folio.Window.Report
import Folio.Window.Screen

/-!
# The window

The window holds the text that is edited, the settings, and the document that was
rendered from them last. A change of either lets a timer start over, and the document is
rendered anew when the timer runs out. Each rendered document is put into a fresh page,
which is scaled and measured when it has been loaded. What the page answers comes later;
the answer about a page that was replaced in the meantime is dropped.
-/

namespace Folio
namespace Window

open Number Viewport Files

/-- Who waits for an answer of the page. -/
inductive Waiting where
  /-- The fitting of math. -/
  | fitting
  /-- The report on a page; the position may have to be restored after it. -/
  | report (generation : Nat) (restores : Bool)
  deriving DecidableEq, Repr

/-- A look at a page that is due after some milliseconds. -/
structure Visit where
  delay : Nat
  generation : Nat
  deriving DecidableEq, Repr

/-- The window. -/
structure State (α : Type) where
  /-- The coordinator and the screen. -/
  session : Session (Screen α) α
  text : List Char
  settings : Settings α
  controls : Controls α
  document : Option Path
  /-- The folder that the program runs in. -/
  folder : Path
  today : Document.Date
  setter : Option Math.Typesetter
  fitter : Fit.Fitter α
  sources : List (List Char)
  /-- The document that was rendered last. -/
  current : Option Document.Rendered
  /-- The page that is shown. -/
  page : List Char
  /-- How many documents were rendered. -/
  generation : Nat
  /-- Where the reader was when the page was replaced. -/
  resumeAt : α
  renderDue : Bool
  fitDue : Bool
  waiting : List Waiting
  visits : List Visit
  /-- What ended the last step early. -/
  fault : Option Fault

/-- How long a message of a fault is shown. -/
def faultDuration : Nat := 5000

/-- The delays after which a loaded page is looked at again: math that is typeset late
moves what is below it. -/
def visitDelays : List Nat := [450, 1500]

namespace State

variable {α : Type}

/-- Change the screen. -/
def onScreen (w : State α) (f : Screen α -> Screen α) : State α :=
  { w with session := { w.session with around := f w.session.around } }

/-- The screen. -/
def screen (w : State α) : Screen α :=
  w.session.around

/-- Show a message. -/
def tell (w : State α) (message : List Char) (duration : Nat) : State α :=
  w.onScreen (·.note (.status message duration))

/-- End the step early. -/
def fail (w : State α) (f : Fault) : State α :=
  { w with fault := some f }

/-- Go on with the step, unless it has ended. -/
def andThen (w : State α) (f : State α -> State α) : State α :=
  if w.fault.isSome then w else f w

/-- Let the timer for rendering start over. -/
def schedule (w : State α) : State α :=
  { w with renderDue := true }

/-- The folder that the addresses of the document start at. -/
def base (w : State α) : List Char :=
  ((w.document.map Path.parent).getD w.folder).text ++ ['/']

/-- Ask the page for something, with somebody waiting for the answer or nobody. -/
def ask (w : State α) (script : Script α) (who : Option Waiting) : State α :=
  if w.screen.view.hasPage then
    { w.onScreen (·.run script) with waiting := w.waiting ++ who.toList }
  else
    w.fail .noPage

/-- Measure the page of a generation, unless it has been replaced. -/
def visit (w : State α) (generation : Nat) (restores : Bool) : State α :=
  if generation = w.generation then
    (w.ask .measure (some .fitting)).andThen
      (·.ask .report (some (.report generation restores)))
  else
    w

/-- Do what was due later: look at pages again. -/
def runVisits (w : State α) : State α :=
  let due := w.visits
  due.foldl (fun w v => w.andThen (·.visit v.generation false)) { w with visits := [] }

/-- Replace the text. -/
def setText (w : State α) (s : List Char) : State α :=
  { w with text := s }.schedule

/-- The window got another size. -/
def resized (w : State α) : State α :=
  { w with fitDue := true }

variable [Scalar α]

/-- Put a document into the view. -/
def mount (w : State α) (d : Document.Rendered) : State α :=
  let w :=
    { w with
      generation := w.generation + 1
      current := some d
      resumeAt := w.session.coordinator.previewFraction }
  match Document.page w.settings d.body d.stylesheet w.sources with
  | .error f => w.fail (.document f)
  | .ok page =>
      { w with page := page }.onScreen fun s =>
        { s with headings := d.headings }.note (.mounted d.body w.base)

/-- Render the text. Without a typesetter the old page stays. -/
def render (w : State α) : State α :=
  match Document.render w.setter w.settings w.today w.text with
  | .error f => w.fail (.document f)
  | .ok none => w.tell "Math typesetter unavailable; preview not updated".toList 3000
  | .ok (some d) => w.mount d

/-- Change settings. Settings that are refused leave everything as it is. -/
def change (w : State α) (fields : List (List Char × Value α)) : State α :=
  match w.settings.change fields with
  | .ok s => { w with settings := s }.schedule
  | .error e =>
      match e.message? with
      | some message => w.tell ("Invalid setting: ".toList ++ message) faultDuration
      | none => w.fail (.conversion .wrongKind)

/-- Use a control. -/
def choose (w : State α) (choice : Choice α) : State α :=
  match w.controls.choose? choice with
  | none => w
  | some (controls, name, v) => { w with controls := controls }.change [(name, v)]

/-- Let the coordinator do something. What ends its step early ends that of the window. -/
def onSession (w : State α) (f : Session (Screen α) α -> Session (Screen α) α) : State α :=
  let s := f w.session
  match s.fault with
  | none => { w with session := s }
  | some e => { w with session := { s with fault := none } }.fail (.conversion e)

/-- Show the zoom that was taken. -/
def showZoom (w : State α) : State α :=
  w.onScreen fun s => { s with zoomLabel := percentLabel w.session.transform.scale }

/-- Let the coordinator take another zoom, and show it. -/
def zoomBy (w : State α) (f : Session (Screen α) α -> Session (Screen α) α) : State α :=
  (w.onSession f).andThen (·.showZoom)

/-- Keep the panes together, or leave them alone. -/
def setSync (w : State α) (on : Bool) : State α :=
  if on = w.session.coordinator.sync then w else w.onSession (·.setSync on)

/-- Set the scroll bar of the editor; the coordinator hears of it if it was moved. -/
def scrollEditor (w : State α) (v : Amount α) : State α :=
  let moved := w.screen.setBar v
  let w := w.onScreen fun _ => moved.1
  if moved.2 then w.onSession (·.scrolled .source) else w

/-- The page was scrolled. -/
def scrollPage (w : State α) (top : Amount α) : State α :=
  let w := w.onScreen fun s => { s with view := { s.view with top := top } }
  if w.session.coordinator.sync then w.onSession (·.scrolled .preview) else w.onSession (·.track)

/-- The page was loaded, or could not be. -/
def loaded (w : State α) (ok : Bool) : State α :=
  if ok then
    -- the fresh page has its own size; the zoom comes before anything is measured
    ((w.zoomBy (·.applyZoom)).andThen (·.visit w.generation true)).andThen fun w =>
      { w with visits := w.visits ++ visitDelays.map fun d => ⟨d, w.generation⟩ }
  else
    w.tell "Preview load failed".toList faultDuration

/-- Widths were reported: shrink what does not fit. -/
def fit (w : State α) (answer : Value α) : State α :=
  match Fit.measurements answer with
  | .error e => w.fail (.conversion e)
  | .ok ms =>
      let planned := w.fitter.plan ms
      let w := { w with fitter := planned.2 }
      if planned.1.isEmpty then w else w.ask (.shrink planned.1) none

/-- Take what a page reported: its height first, then its headings and its start. -/
def takeReport (w : State α) (restores : Bool) (report : List (List Char × Value α)) : State α :=
  match pageHeight report with
  | .error e => w.fail e
  | .ok height =>
      let w := w.onScreen fun s => { s with pageHeight := height }
      match headings report, pageTop report with
      | .error e, _ => w.fail e
      | .ok _, .error e => w.fail e
      | .ok ps, .ok top =>
          -- the room below the page follows its height
          ((w.zoomBy (·.applyZoom)).andThen
            (·.onSession (·.setHeadings (.ok ps) (.real top)))).andThen fun w =>
              if restores && Scalar.lt Scalar.zero w.resumeAt then
                w.ask (.scrollToFraction w.resumeAt) none
              else
                w

/-- A page reported. A report on a page that was replaced is dropped. -/
def reported (w : State α) (generation : Nat) (restores : Bool) (answer : Value α) : State α :=
  match answer with
  | .object report => if generation = w.generation then w.takeReport restores report else w
  | _ => w

/-- The page answered who waited longest. -/
def answered (w : State α) (answer : Value α) : State α :=
  match w.waiting with
  | [] => w
  | who :: rest =>
      let w := { w with waiting := rest }
      match who with
      | .fitting => w.fit answer
      | .report generation restores => w.reported generation restores answer

/-- The timer for rendering runs out. -/
def fireRender (w : State α) : State α :=
  if w.renderDue then { w with renderDue := false }.render else w

/-- The timer for fitting runs out. -/
def fireFit (w : State α) : State α :=
  if w.fitDue then { w with fitDue := false }.visit w.generation false else w

/-- The timer of the quiet while runs out. -/
def fireIdle (w : State α) : State α :=
  let ring := w.screen.idle.runOut
  let w := w.onScreen fun s => { s with idle := ring.1 }
  if ring.2 then w.onSession (·.rest) else w

/-- Open the window. -/
def start (text : List Char) (settings : Settings α) (document : Option Path) (folder : Path)
    (sources : List (List Char)) (today : Document.Date) : Except Fault (State α) :=
  match Controls.ofSettings settings with
  | .error e => .error (.conversion e)
  | .ok controls =>
      let w : State α :=
        { session := ⟨.start (Scalar.ofInt 100) true, .start, none⟩
          text := text
          settings := settings
          controls := controls
          document := document
          folder := folder
          today := today
          setter := some Math.deferred
          fitter := .start Fit.blockSelector
          sources := sources
          current := none
          page := []
          generation := 0
          resumeAt := Scalar.zero
          renderDue := false
          fitDue := false
          waiting := []
          visits := []
          fault := none }
      let w := (w.tell "Ready".toList 0).render
      match w.fault with
      | some f => .error f
      | none => .ok w

end State
end Window
end Folio
