import Folio.Value.Equality
import Folio.Viewport.Coordinator

/-!
# Sessions

A session is a coordinator together with its surroundings: the panes, the timer, and
those who are told of the reading position. A pane that is moved may report this at
once, in the midst of what moved it; such a report is handled before the rest is done.
It is never followed by another movement, since the pane that reports is not the one
that drives. This is why handling a movement ends.
-/

namespace Folio
namespace Viewport

open Number

/-- What a coordinator sees of its surroundings and does to them. -/
class Surroundings (σ : Type) (α : outParam Type) where
  /-- What a pane reports, unless it is not on the screen. A number that is too large to
  hold cannot be reported. -/
  metrics : σ -> Side -> Except ConversionError (Option (Metrics α))
  /-- The height of the unscaled page, if it is known. -/
  pageHeight : σ -> Option α
  /-- Move a pane, and say whether it reports the movement. Not every pane can be moved to
  every number. -/
  place : σ -> Side -> α -> Except ConversionError (σ × Bool)
  /-- Scale the page. -/
  scalePage : σ -> Transform α -> σ
  /-- Tell how far the document has been read. -/
  tellProgress : σ -> α -> σ
  /-- Tell which heading is being read. -/
  tellActive : σ -> Value α -> σ
  /-- Let the timer start over. -/
  arm : σ -> σ
  /-- Stop the timer, and forget what it was to do. -/
  disarm : σ -> σ

/-- A coordinator in its surroundings. -/
structure Session (σ α : Type) where
  coordinator : Coordinator α
  around : σ
  /-- What ended the last step early. -/
  fault : Option ConversionError

namespace Session

variable {σ α : Type}

/-- Whether nothing went wrong. -/
def isSound (s : Session σ α) : Bool :=
  s.fault.isNone

/-- End the step early. -/
def fail (s : Session σ α) (e : ConversionError) : Session σ α :=
  { s with fault := some e }

/-- Let a pane drive. -/
def drive (s : Session σ α) (side : Side) : Session σ α :=
  { s with coordinator := { s.coordinator with driver := some side } }

/-- Let no pane drive. -/
def rest (s : Session σ α) : Session σ α :=
  { s with coordinator := { s.coordinator with driver := none } }

@[simp] theorem driver_fail (s : Session σ α) (e : ConversionError) :
    (s.fail e).coordinator.driver = s.coordinator.driver := rfl

@[simp] theorem driver_drive (s : Session σ α) (side : Side) :
    (s.drive side).coordinator.driver = some side := rfl

@[simp] theorem driver_rest (s : Session σ α) : s.rest.coordinator.driver = none := rfl

variable [Surroundings σ α]

/-- What a pane reports. -/
def metrics (s : Session σ α) (side : Side) : Except ConversionError (Option (Metrics α)) :=
  Surroundings.metrics s.around side

/-- Stop the timer and start it again. -/
def rearm (s : Session σ α) : Session σ α :=
  { s with around := Surroundings.arm (Surroundings.disarm s.around) }

/-- Move a pane, and say whether it reports the movement. -/
def place (s : Session σ α) (side : Side) (x : α) : Session σ α × Bool :=
  match Surroundings.place s.around side x with
  | .error e => (s.fail e, false)
  | .ok moved => ({ s with around := moved.1 }, moved.2)

/-- Note how far the document has been read, and tell it. -/
def setProgress (s : Session σ α) (x : α) : Session σ α :=
  { s with
    coordinator := { s.coordinator with previewFraction := x }
    around := Surroundings.tellProgress s.around x }

@[simp] theorem driver_place (s : Session σ α) (side : Side) (x : α) :
    (s.place side x).1.coordinator.driver = s.coordinator.driver := by
  unfold place
  split <;> rfl

@[simp] theorem driver_setProgress (s : Session σ α) (x : α) :
    (s.setProgress x).coordinator.driver = s.coordinator.driver := rfl

variable [Scalar α]

/-- Note a heading as the one that is being read, and tell it if it is another one. -/
def setActive (s : Session σ α) (id : Value α) : Session σ α :=
  if id.same s.coordinator.active then
    s
  else
    { s with
      coordinator := { s.coordinator with active := id }
      around := Surroundings.tellActive s.around id }

@[simp] theorem driver_setActive (s : Session σ α) (id : Value α) :
    (s.setActive id).coordinator.driver = s.coordinator.driver := by
  unfold setActive
  split <;> rfl

/-- Look where the preview stands. -/
def track (s : Session σ α) : Session σ α :=
  match s.metrics .preview with
  | .error e => s.fail e
  | .ok none => s
  | .ok (some m) =>
      match s.coordinator.headings with
      | .error e => (s.setProgress m.fraction).fail e
      | .ok ps => (s.setProgress m.fraction).setActive (s.coordinator.lastReached m.top ps)

@[simp] theorem driver_track (s : Session σ α) :
    s.track.coordinator.driver = s.coordinator.driver := by
  unfold track
  split
  · rfl
  · rfl
  · split <;> simp

/-- The reading position is looked at whenever the preview was moved. -/
def observe (s : Session σ α) (side : Side) : Session σ α :=
  match side with
  | .source => s
  | .preview => s.track

@[simp] theorem driver_observe (s : Session σ α) (side : Side) :
    (s.observe side).coordinator.driver = s.coordinator.driver := by
  cases side <;> simp [observe]

/-- Handle the report that a pane was moved: it drives the other pane, unless that one
is driving. -/
def scrolled (side : Side) (s : Session σ α) : Session σ α :=
  if s.coordinator.sync then
    let seen := s.observe side
    if !seen.isSound then
      seen
    else if _hd : seen.coordinator.driver = some side.other then
      seen
    else
      match seen.metrics side, seen.metrics side.other with
      | .error e, _ => seen.fail e
      | .ok _, .error e => seen.fail e
      | .ok (some driving), .ok (some following) =>
          let position := Scalar.mul driving.fraction following.maxScroll
          let moved := (seen.drive side).place side.other position
          let answered := if moved.2 then scrolled side.other moved.1 else moved.1
          if !answered.isSound then
            answered
          else
            let armed := answered.rearm
            { armed with coordinator := armed.coordinator.setFraction side driving.fraction }
      | _, _ => seen
  else
    s
termination_by (if s.coordinator.driver = some side.other then 0 else 1 : Nat)
decreasing_by
  rw [driver_observe] at _hd
  simp [_hd]

/-- Keep the panes together, or leave them alone and let none drive. -/
def setSync (s : Session σ α) (on : Bool) : Session σ α :=
  let s := { s with coordinator := { s.coordinator with sync := on } }
  if on then s else { s with around := Surroundings.disarm s.around }.rest

/-- Take new positions of the headings and of the top of the page. -/
def setHeadings (s : Session σ α) (ps : Except ConversionError (Positions α)) (top : Value α) :
    Session σ α :=
  let s := { s with coordinator := { s.coordinator with headings := ps } }
  match top.toNumber with
  | .error e => s.fail e
  | .ok x => { s with coordinator := { s.coordinator with pageTop := x } }.track

/-- The transform that the zoom asks for. -/
def transform (s : Session σ α) : Transform α :=
  s.coordinator.transform (Surroundings.pageHeight s.around)

/-- Scale the page as the zoom asks for. -/
def applyZoom (s : Session σ α) : Session σ α :=
  { s with around := Surroundings.scalePage s.around s.transform }

/-- Take the zoom nearest to a number. -/
def zoomTo (s : Session σ α) (x : α) : Session σ α :=
  { s with coordinator := { s.coordinator with zoom := clampZoom x } }.applyZoom.track

/-- Take the zoom nearest to a value. -/
def setZoom (s : Session σ α) (v : Value α) : Session σ α :=
  match v.toNumber with
  | .error e => s.fail e
  | .ok x => s.zoomTo x

/-- Take the next larger zoom. -/
def zoomIn (s : Session σ α) : Session σ α :=
  s.zoomTo (Scalar.add s.coordinator.zoom zoomStep)

/-- Take the next smaller zoom. -/
def zoomOut (s : Session σ α) : Session σ α :=
  s.zoomTo (Scalar.sub s.coordinator.zoom zoomStep)

/-- Show the page in its own size. -/
def resetZoom (s : Session σ α) : Session σ α :=
  s.zoomTo Scalar.one

end Session
end Viewport
end Folio
