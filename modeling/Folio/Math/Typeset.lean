import Folio.Math.Extraction
import Folio.Html.Escape
import Folio.Text.Blank
import Folio.Text.Quoted

/-!
# Setting math

A typesetter turns an expression into markup or fails. What it gives is wrapped in an
element that runs left to right; a failure becomes a visible marker that shows the
expression and carries the reason.
-/

namespace Folio
namespace Math

open Text Html

/-- What a typesetter answers. -/
inductive Outcome where
  /-- Markup for the page. -/
  | markup (s : List Char)
  /-- An answer that is no markup. -/
  | noMarkup
  /-- A failure of the named kind, with a message that may be empty. -/
  | failure (kind message : List Char)
  deriving DecidableEq, Repr

/-- A typesetter: the answer for an expression that is set in a line of its own or not. -/
abbrev Typesetter := List Char -> Bool -> Outcome

/-- The message for an expression that cannot be set. -/
def failureMessage (expression reason : List Char) : List Char :=
  let message := "Could not typeset ".toList ++ quoted expression
  if reason.isEmpty then message else message ++ ": ".toList ++ reason

/-- The typesetter that leaves the work to the page: it writes the expression, escaped,
in the delimiters that the page looks for. -/
def deferred : Typesetter := fun expression display =>
  let escaped := escapeText (trim expression)
  .markup (if display then "\\[".toList ++ escaped ++ "\\]".toList
    else "\\(".toList ++ escaped ++ "\\)".toList)

/-- Wrap markup for its place. -/
def wrap (markup : List Char) (display : Bool) : List Char :=
  if display then
    "<div class=\"math-display\" dir=\"ltr\">".toList ++ markup ++ "</div>".toList
  else
    "<span class=\"math-inline\" dir=\"ltr\">".toList ++ markup ++ "</span>".toList

/-- The marker for an expression that could not be set. -/
def errorMarker (expression reason : List Char) : List Char :=
  "<span class=\"math-error\" dir=\"ltr\" title=\"".toList ++ escapeAttribute reason ++
    "\">".toList ++ escapeAttribute expression ++ "</span>".toList

/-- The markup for an expression, given what its typesetter answered. -/
def Outcome.markupFor (expression : List Char) (display : Bool) : Outcome -> List Char
  | .markup s => wrap s display
  | .noMarkup =>
      errorMarker expression (failureMessage expression "renderer returned no markup".toList)
  | .failure kind message =>
      errorMarker expression (if message.isEmpty then kind else message)

/-- The markup for a piece of math. -/
def typeset (setter : Typesetter) (expression : List Char) (display : Bool) : List Char :=
  (setter expression display).markupFor expression display

end Math
end Folio
