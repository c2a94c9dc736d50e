import Folio.Container.Tag
import Folio.Container.Seal
import Folio.Html.Escape

/-!
# Containers in a source text

A text is cut into regions: containers that are closed, opening tags of containers
that never are, and the text between. The body of a closed `div` is rendered ahead of
the text around it and put back as one block of markup; a `span` is only drawn
together; an unclosed tag is shown as text. Containers do not nest: a container ends at
the first closing tag of its name.
-/

namespace Folio
namespace Container

open Text Html

/-- A region of a source text. -/
inductive Region where
  | text (s : List Char)
  /-- A container with its body and its closing tag. -/
  | closed (tag : OpenTag) (body closing : List Char)
  /-- An opening tag without a closing one. -/
  | unclosed (tag : OpenTag)
  deriving DecidableEq, Repr

/-- A region as it stands in the source. -/
def Region.source : Region -> List Char
  | .text s => s
  | .closed tag body closing => tag.text ++ body ++ closing
  | .unclosed tag => tag.text

/-- Put a character in front of the first region, if that is text, or else in a region
of its own. -/
def consText (c : Char) : List Region -> List Region
  | .text s :: rest => .text (c :: s) :: rest
  | rest => .text [c] :: rest

/-- The container that opens at the start of a text, and what follows it. -/
def region? (s : List Char) : Option (Region × List Char) :=
  match openTag? s with
  | some (tag, after) =>
      match className? tag.attributes with
      | none => none
      | some _ =>
          match breakAtClose? (lower tag.name) after with
          | some (body, closing, rest) => some (.closed tag body closing, rest)
          | none => some (.unclosed tag, after)
  | none => none

/-- Cut a text into regions. Every region takes at least one character. -/
def regionsFrom : Nat -> List Char -> List Region
  | 0, _ => []
  | _ + 1, [] => []
  | fuel + 1, c :: rest =>
      match region? (c :: rest) with
      | some (region, after) => region :: regionsFrom fuel after
      | none => consText c (regionsFrom fuel rest)

/-- Cut a text into containers and the text between them. -/
def regions (s : List Char) : List Region :=
  regionsFrom s.length s

/-- A line end after a text that does not end with one. -/
def closeLine (s : List Char) : List Char :=
  if s.getLast? = some '\n' then s else s ++ ['\n']

/-- A rendered container as one block of markup. -/
def blockMarkup (tag : OpenTag) (rendered : List Char) : List Char :=
  '\n' :: '\n' :: tag.text ++ '\n' :: closeLine (sealed rendered) ++ "</div>\n\n".toList

/-- A container within a line, drawn together. -/
def spanMarkup (tag : OpenTag) (body : List Char) : List Char :=
  tag.text ++ trim body ++ "</span>".toList

/-- Write one region, rendering its body with a state that is passed on. -/
def Region.emit {σ : Type} (render : List Char -> σ -> List Char × σ) (s : σ) :
    Region -> List Char × σ
  | .text t => (t, s)
  | .unclosed tag => (escapeAttribute tag.text, s)
  | .closed tag body _ =>
      if tag.isDiv then
        let rendered := render body s
        (blockMarkup tag rendered.1, rendered.2)
      else
        (spanMarkup tag body, s)

/-- Write regions one after the other. -/
def emitAll {σ : Type} (render : List Char -> σ -> List Char × σ) :
    List Region -> σ -> List Char × σ
  | [], s => ([], s)
  | region :: rest, s =>
      let first := region.emit render s
      let others := emitAll render rest first.2
      (first.1 ++ others.1, others.2)

/-- Render the containers of a text ahead of the text around them. -/
def prepareWith {σ : Type} (render : List Char -> σ -> List Char × σ) (source : List Char)
    (s : σ) : List Char × σ :=
  emitAll render (regions source) s

/-- The same with a rendering that keeps no state. -/
def prepare (render : List Char -> List Char) (source : List Char) : List Char :=
  (prepareWith (fun body (_ : Unit) => (render body, ())) source ()).1

/-- The bodies that are rendered ahead, in order. -/
def bodies (source : List Char) : List (List Char) :=
  (regions source).filterMap fun region =>
    match region with
    | .closed tag body _ => if tag.isDiv then some body else none
    | _ => none

end Container
end Folio
