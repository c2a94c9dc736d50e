import Folio.Amount

/-!
# Fitting display math

Display math that is wider than its column is shrunk to the width of the column. What
is too wide by no more than half a pixel counts as fitting.
-/

namespace Folio
namespace Fit

open Number

variable {α : Type} [Scalar α]

/-- What may stick out without being shrunk, in pixels. -/
def tolerance : α :=
  Scalar.tenths 5

/-- The factor that shrinks a block to its column, or nothing if it fits. A block or a
column without width fits. -/
def scale? (natural container : α) : Option α :=
  if Scalar.le natural Scalar.zero || Scalar.le container Scalar.zero then
    none
  else if Scalar.le natural (Scalar.add container tolerance) then
    none
  else
    some (Scalar.div container natural)

/-- The same for widths in any form. The width of the column, with what may stick out, is a
machine number; the other comparisons and the ratio of whole widths are exact. -/
def scaleOf? (natural container : Amount α) : Except ConversionError (Option α) :=
  if natural.isAtMost 0 || container.isAtMost 0 then
    .ok none
  else do
    let room <- container.toNumber
    if (Amount.real (Scalar.add room tolerance)).isLess natural then
      some <$> container.quotient natural
    else
      pure none

/-- How one block is shrunk. -/
structure Transform (α : Type) where
  index : Int
  scale : α
  deriving DecidableEq, Repr

/-- A transform as a value of the page's style, with four places. -/
def Transform.css (t : Transform α) : List Char :=
  "scale(".toList ++ (Scalar.exact t.scale).fixed 4 ++ ")".toList

/-- The factor is the ratio of the two widths. -/
theorem scale?_eq_some {natural container s : α} (h : scale? natural container = some s) :
    s = Scalar.div container natural := by
  unfold scale? at h
  split at h
  · exact absurd h (by simp)
  · split at h
    · exact absurd h (by simp)
    · exact (Option.some.inj h).symm

end Fit
end Folio
