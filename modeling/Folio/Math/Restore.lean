import Folio.Math.Typeset

/-!
# Putting math back

The tokens in finished markup are replaced by the markup of their math, segment after
segment. A paragraph that holds only a token of display math becomes the math itself.
-/

namespace Folio
namespace Math

open Text

/-- What follows the token and the closing tag, when a text starts with blanks, the
token, blanks and the closing tag of a paragraph. -/
def loneTail? (token : List Char) (s : List Char) : Option (List Char) :=
  let rest? := do
    let rest <- dropPrefix? token s
    dropPrefix? "</p>".toList (rest.dropWhile isBlank)
  match s with
  | [] => rest?
  | c :: rest =>
      if isBlank c then
        match loneTail? token rest with
        | some tail => some tail
        | none => rest?
      else
        rest?

/-- What follows a paragraph that holds only the token, at the start of a text. -/
def loneParagraph? (token s : List Char) : Option (List Char) :=
  (dropPrefix? "<p>".toList s).bind (loneTail? token)

/-- Replace the paragraphs that hold only the token. -/
def replaceLone (token markup s : List Char) : List Char :=
  rewrite (fun s => (loneParagraph? token s).map fun rest => (markup, rest)) s

/-- Put the markup of one segment in the places of its token. -/
def putBack (markup text : List Char) (segment : Segment) : List Char :=
  let text := if segment.display then replaceLone segment.token markup text else text
  replaceAll segment.token markup text

/-- The markup for a segment, given what its typesetter answered. -/
def Segment.markupFor (segment : Segment) (outcome : Outcome) : List Char :=
  outcome.markupFor segment.expression segment.display

/-- Put math back for one segment after the other, each with an answer of its own. -/
def restoreWith (answer : Segment -> Outcome) (segments : List Segment) (text : List Char) :
    List Char :=
  segments.foldl (fun text segment => putBack (segment.markupFor (answer segment)) text segment)
    text

/-- Put the math of all segments back. Without a typesetter the text stays as it is. -/
def restore (setter : Option Typesetter) (segments : List Segment) (text : List Char) :
    List Char :=
  match setter with
  | none => text
  | some setter =>
      restoreWith (fun segment => setter segment.expression segment.display) segments text

/-- The tokens that still occur in a text. -/
def unresolved (segments : List Segment) (text : List Char) : List (List Char) :=
  (segments.map (·.token)).filter (occurs · text)

end Math
end Folio
