import Folio.Document.Header
import Folio.Heading.Contents
import Folio.Math.Restore
import Folio.Prose.Document
import Folio.Style.Stylesheet

/-!
# Rendered documents

A source is rendered in one pass: math is taken out of it, the prose is rendered, the
table of contents is put in front, and math is put back into both at once. The header
comes before all of it. Without a typesetter nothing is rendered.
-/

namespace Folio
namespace Document

open Number Heading

/-- A rendered document. -/
structure Rendered where
  body : List Char
  stylesheet : List Char
  headings : List Entry
  mathCount : Nat
  deriving DecidableEq, Repr

/-- The prose of a source without its math: markup, headings, and the math taken out. -/
structure Prepared where
  markup : List Char
  headings : List Entry
  segments : List Math.Segment
  deriving DecidableEq, Repr

/-- Render the prose of a source, with tokens in the places of math. -/
def prepare (source : List Char) : Prepared :=
  let e := Math.extract source
  let out := Prose.renderDocument e.text Anchors.start
  ⟨out.1, out.2.listed, e.segments⟩

/-- The table of contents of a prepared document, with tokens in it. -/
def contentsOf {α : Type} [Scalar α] (p : Prepared) (s : Settings α) : List Char :=
  contents p.headings s.showsToc s.direction.name

/-- A heading with its math put back. -/
def restoreEntry (setter : Math.Typesetter) (segments : List Math.Segment) (e : Entry) : Entry :=
  { e with text := Math.restore (some setter) segments e.text }

/-- The contents and the prose of a document, with its math put back. -/
def proseOf {α : Type} [Scalar α] (setter : Math.Typesetter) (s : Settings α) (p : Prepared) :
    List Char :=
  Math.restore (some setter) p.segments (contentsOf p s ++ p.markup)

/-- A prepared document with its markup and its stylesheet. -/
def assemble (setter : Math.Typesetter) (p : Prepared) (body stylesheet : List Char) : Rendered where
  body := body
  stylesheet := stylesheet
  headings := p.headings.map (restoreEntry setter p.segments)
  mathCount := p.segments.length

/-- Render a document, if there is a typesetter. -/
def render {α : Type} [Scalar α] (setter : Option Math.Typesetter) (s : Settings α)
    (today : Date) (source : List Char) : Except Fault (Option Rendered) :=
  match setter with
  | none => .ok none
  | some setter =>
      let p := prepare source
      match Style.stylesheet s, header s today with
      | .error e, _ => .error (.conversion e)
      | .ok _, .error e => .error e
      | .ok sheet, .ok head => .ok (some (assemble setter p (head ++ proseOf setter s p) sheet))

section

variable {α : Type} [Scalar α] {setter : Math.Typesetter} {s : Settings α} {today : Date}
  {source : List Char}

/-- Without a typesetter nothing is rendered. -/
theorem render_none (s : Settings α) (today : Date) (source : List Char) :
    render none s today source = .ok none := rfl

theorem render_eq_ok {sheet head : List Char} (hsheet : Style.stylesheet s = .ok sheet)
    (hhead : header s today = .ok head) :
    render (some setter) s today source =
      .ok (some (assemble setter (prepare source) (head ++ proseOf setter s (prepare source))
        sheet)) := by
  rw [render, hsheet, hhead]

theorem render_eq_conversion {e : ConversionError} (h : Style.stylesheet s = .error e) :
    render (some setter) s today source = .error (.conversion e) := by
  rw [render, h]

theorem render_eq_error {sheet : List Char} {e : Fault} (hsheet : Style.stylesheet s = .ok sheet)
    (h : header s today = .error e) : render (some setter) s today source = .error e := by
  rw [render, hsheet, h]

/-- What a rendered document is made of. -/
theorem parts_of_render {d : Rendered} (h : render (some setter) s today source = .ok (some d)) :
    exists sheet head, Style.stylesheet s = .ok sheet ∧ header s today = .ok head ∧
      d = assemble setter (prepare source) (head ++ proseOf setter s (prepare source)) sheet := by
  cases hsheet : Style.stylesheet s with
  | error e =>
      rw [render_eq_conversion hsheet] at h
      cases h
  | ok sheet =>
      cases hhead : header s today with
      | error e =>
          rw [render_eq_error hsheet hhead] at h
          cases h
      | ok head =>
          rw [render_eq_ok hsheet hhead] at h
          cases h
          exact ⟨sheet, head, rfl, rfl, rfl⟩

end

end Document
end Folio
