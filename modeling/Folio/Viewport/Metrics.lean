import Folio.Number.Scalar

/-!
# Positions of panes

A pane shows a part of a longer document. Where it stands is told by a fraction between
zero and one, so that the positions of two panes of different lengths can be compared.
-/

namespace Folio
namespace Viewport

open Number

/-- The two panes: the source, and the preview of the document. -/
inductive Side where
  | source
  | preview
  deriving DecidableEq, Repr, Inhabited

/-- The pane opposite. -/
def Side.other : Side -> Side
  | source => preview
  | preview => source

@[simp] theorem Side.other_other (s : Side) : s.other.other = s := by
  cases s <;> rfl

theorem Side.other_ne (s : Side) : s.other ≠ s := by
  cases s <;> decide

/-- What a pane reports: its position, the length of its document, and its own height. -/
structure Metrics (α : Type) where
  top : α
  height : α
  client : α
  deriving DecidableEq, Repr

namespace Metrics

variable {α : Type} [Scalar α]

/-- How far the pane can be scrolled. -/
def maxScroll (m : Metrics α) : α :=
  Scalar.maxOf Scalar.zero (Scalar.sub m.height m.client)

/-- The part of the way that the pane has been scrolled; zero if it cannot be. -/
def fraction (m : Metrics α) : α :=
  if Scalar.le m.maxScroll Scalar.zero then
    Scalar.zero
  else
    Scalar.minOf Scalar.one (Scalar.maxOf Scalar.zero (Scalar.div m.top m.maxScroll))

end Metrics
end Viewport
end Folio
