import Folio.Viewport.Session
import Folio.Viewport.Timer

/-!
# Panes in memory

Two panes that hold nothing but their numbers, a timer, and a record of all that the
coordinator did. The panes may report movements at once, as panes on a screen do.
-/

namespace Folio
namespace Viewport

open Number

/-- A pane in memory. -/
structure Pane (α : Type) where
  metrics : Metrics α
  pageHeight : Option α
  /-- Whether the pane is on the screen. -/
  mounted : Bool
  deriving Repr

/-- What was done to the surroundings. -/
inductive Deed (α : Type) where
  | placed (side : Side) (x : α)
  | scaled (t : Transform α)
  | toldProgress (x : α)
  | toldActive (id : Value α)
  | started
  | stopped

/-- Panes in memory with a timer and a record. -/
structure Bench (α : Type) where
  source : Option (Pane α)
  preview : Option (Pane α)
  timer : Timer
  /-- Whether panes report their movements. -/
  echo : Bool
  /-- Whether anybody is told of the reading position. -/
  listens : Bool
  /-- The deeds since the record was last read, the last one first. -/
  record : List (Deed α)

namespace Bench

variable {α : Type}

/-- A pane of the bench. -/
def pane (b : Bench α) : Side -> Option (Pane α)
  | .source => b.source
  | .preview => b.preview

/-- Change a pane. -/
def setPane (b : Bench α) (side : Side) (p : Pane α) : Bench α :=
  match side with
  | .source => { b with source := some p }
  | .preview => { b with preview := some p }

/-- Record a deed. -/
def note (b : Bench α) (d : Deed α) : Bench α :=
  { b with record := d :: b.record }

/-- Read the record and start a new one. -/
def takeRecord (b : Bench α) : List (Deed α) × Bench α :=
  (b.record.reverse, { b with record := [] })

variable [Scalar α]

/-- Put a pane at a position. -/
def place (b : Bench α) (side : Side) (x : α) : Bench α × Bool :=
  match b.pane side with
  | none => (b, false)
  | some p =>
      ((b.note (.placed side x)).setPane side { p with metrics := { p.metrics with top := x } },
        b.echo && !Scalar.same x p.metrics.top)

/-- Stop the timer. -/
def disarm (b : Bench α) : Bench α :=
  { b with timer := b.timer.disarm }.note .stopped

/-- Start the timer; a signalling timer is stopped before. -/
def arm (b : Bench α) : Bench α :=
  let started := { b with timer := b.timer.arm }
  match b.timer with
  | .direct _ => started.note .started
  | .signalling _ _ => (started.note .stopped).note .started

/-- Tell of the reading position, if anybody listens. -/
def tell (b : Bench α) (d : Deed α) : Bench α :=
  if b.listens then b.note d else b

instance : Surroundings (Bench α) α where
  metrics b side := .ok ((b.pane side).bind fun p => if p.mounted then some p.metrics else none)
  pageHeight b := b.preview.bind (·.pageHeight)
  place b side x := .ok (b.place side x)
  scalePage b t := if b.preview.isSome then b.note (.scaled t) else b
  tellProgress b x := b.tell (.toldProgress x)
  tellActive b id := b.tell (.toldActive id)
  arm := arm
  disarm := disarm

end Bench

namespace Session

variable {α : Type}

/-- The timer did what it does; its task is to let no pane drive. -/
def afterTimer (s : Session (Bench α) α) (ring : Timer × Bool) : Session (Bench α) α :=
  let s := { s with around := { s.around with timer := ring.1 } }
  if ring.2 then s.rest else s

/-- The timer runs out. -/
def runOut (s : Session (Bench α) α) : Session (Bench α) α :=
  s.afterTimer s.around.timer.runOut

/-- The timer gives its signal. -/
def signal (s : Session (Bench α) α) : Session (Bench α) α :=
  s.afterTimer s.around.timer.signal

end Session
end Viewport
end Folio
