import Folio.Viewport.Metrics
import Folio.Viewport.Position
import Folio.Viewport.Zoom

/-!
# The coordinator

The coordinator keeps two panes at the same fraction of their ways. Whichever pane is
moved drives the other one; the movement that the other pane reports in turn is not
followed. It also keeps the zoom of the page and the heading that is being read.
-/

namespace Folio
namespace Viewport

open Number

/-- What the coordinator remembers. -/
structure Coordinator (α : Type) where
  /-- The pane that drives the other one, until a quiet while has passed. -/
  driver : Option Side
  /-- Whether the panes are kept together at all. -/
  sync : Bool
  zoom : α
  sourceFraction : α
  previewFraction : α
  /-- The heading that is being read, if there is one. -/
  active : Value α
  /-- The positions of the headings, or what is wrong with them. -/
  headings : Except ConversionError (Positions α)
  /-- Where the page starts in the preview. -/
  pageTop : α
  /-- How far below the top of the pane a heading counts as reached. -/
  lookahead : α

namespace Coordinator

variable {α : Type}

/-- Remember the fraction of a pane. -/
def setFraction (c : Coordinator α) (side : Side) (x : α) : Coordinator α :=
  match side with
  | .source => { c with sourceFraction := x }
  | .preview => { c with previewFraction := x }

@[simp] theorem driver_setFraction (c : Coordinator α) (side : Side) (x : α) :
    (c.setFraction side x).driver = c.driver := by
  cases side <;> rfl

variable [Scalar α]

/-- A coordinator at the start. -/
def start (lookahead : α) (sync : Bool) : Coordinator α where
  driver := none
  sync := sync
  zoom := Scalar.one
  sourceFraction := Scalar.zero
  previewFraction := Scalar.zero
  active := .null
  headings := .ok []
  pageTop := Scalar.zero
  lookahead := lookahead

/-- Whether a heading at a distance has been reached at a position of the pane. -/
def isReached (c : Coordinator α) (top offset : α) : Bool :=
  Scalar.le (Scalar.add c.pageTop (Scalar.mul offset c.zoom)) (Scalar.add top c.lookahead)

/-- The last heading of a list that has been reached. -/
def lastReached (c : Coordinator α) (top : α) (ps : Positions α) : Value α :=
  ps.foldl (fun found p => if c.isReached top p.2 then p.1 else found) .null

/-- The transform for the zoom. -/
def transform (c : Coordinator α) (pageHeight : Option α) : Transform α :=
  .ofZoom c.zoom pageHeight

end Coordinator
end Viewport
end Folio
