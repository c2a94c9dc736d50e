import Folio.Container.Region
import Folio.Prose.Render

/-!
# Prose with anchors

A document is rendered in two steps: first the bodies of its containers, whose headings
are counted and set aside, and then the text around them. When the second step meets a
container, the headings of the next one in line take their place in the list.
-/

namespace Folio
namespace Prose

open Heading

/-- The headings that were noted. -/
def entries (notes : List Landmark) : List Entry :=
  notes.filterMap fun note =>
    match note with
    | .heading e => some e
    | .container => none

/-- Take a note of the text around the containers. -/
def follow (a : Anchors) : Landmark -> Anchors
  | .heading e => a.list e
  | .container => a.meet

/-- Render the text around the containers. Headings that still wait are listed last. -/
def renderText (source : List Char) (a : Anchors) : List Char × Anchors :=
  let out := renderFrom (some a.count) source
  let noted := out.landmarks.foldl follow a
  (out.markup, { noted with count := out.count.getD a.count }.flush)

/-- Render the body of a container; its headings wait. -/
def renderBody (source : List Char) (a : Anchors) : List Char × Anchors :=
  let out := renderFrom (some a.count) source
  (out.markup,
    { a with count := out.count.getD a.count, waiting := a.waiting ++ [entries out.landmarks] })

/-- Render a text with its containers. -/
def renderDocument (source : List Char) (a : Anchors) : List Char × Anchors :=
  let prepared := Container.prepareWith renderBody source a
  renderText prepared.1 prepared.2

end Prose
end Folio
