import Folio.Number.Scalar

/-!
# Zoom

The page is scaled between half and twice its size, in whole hundredths. A page that is
larger than its box gets a margin below for what it gained in height.
-/

namespace Folio
namespace Viewport

open Number

variable {α : Type} [Scalar α]

/-- The zoom nearest to a wanted one. -/
def clampZoom (x : α) : α :=
  Scalar.roundHundredths
    (Scalar.minOf (Scalar.ofInt 2) (Scalar.maxOf (Scalar.tenths 5) x))

/-- What one press of a button adds to the zoom or takes from it. -/
def zoomStep : α :=
  Scalar.tenths 1

/-- How the page is scaled. -/
structure Transform (α : Type) where
  scale : α
  /-- The room left below the page, in pixels. -/
  marginBottom : α
  deriving DecidableEq, Repr

/-- The point of the page that stays where it is. -/
def origin : List Char :=
  "top center".toList

namespace Transform

/-- Whether the page keeps its size. -/
def isIdentity (t : Transform α) : Bool :=
  Scalar.same t.scale Scalar.one

/-- A transform as a value of the page's style. -/
def css (t : Transform α) : List Char :=
  if t.isIdentity then
    "none".toList
  else
    "scale(".toList ++ (Scalar.exact t.scale).plain ++ ")".toList

/-- The transform for a zoom and the height of the page. -/
def ofZoom (zoom : α) (pageHeight : Option α) : Transform α :=
  if Scalar.same zoom Scalar.one then
    ⟨Scalar.one, Scalar.zero⟩
  else
    match pageHeight with
    | none => ⟨zoom, Scalar.zero⟩
    | some h =>
        if Scalar.lt Scalar.one zoom && !Scalar.same h Scalar.zero then
          ⟨zoom, Scalar.mul (Scalar.sub zoom Scalar.one) h⟩
        else
          ⟨zoom, Scalar.zero⟩

end Transform
end Viewport
end Folio
