import Folio.Document.Date
import Folio.Document.Fault
import Folio.Html.Escape

/-!
# The header

A document that has a title starts with it, and with the date below it where that is
wanted. A document without a title has no header.
-/

namespace Folio
namespace Document

open Html

/-- The line with the date. -/
def dateLine (d : Direction) (today : Date) : List Char :=
  "<div class=\"doc-date\">".toList ++ today.text d ++ "</div>".toList

/-- The header under a title. -/
def headerUnder (title : List Char) (d : Direction) (showsDate : Bool) (today : Date) :
    List Char :=
  if title.isEmpty then
    []
  else
    "<div class=\"doc-header\">\n<h1 class=\"doc-title\">".toList ++ escapeAttribute title ++
      "</h1>\n".toList ++ (if showsDate then dateLine d today else []) ++ "\n</div>\n".toList

/-- The header of a document. -/
def header {α : Type} [Number.Scalar α] (s : Settings α) (today : Date) :
    Except Fault (List Char) :=
  (titleOf s).map fun title => headerUnder title s.direction s.showsDate today

/-- A document whose title counts as none has no header. -/
theorem header_of_not_truthy {α : Type} [Number.Scalar α] (s : Settings α) (today : Date)
    (h : s.title.truthy = false) : header s today = .ok [] := by
  simp [header, titleOf, Settings.titleText?, h, Except.map, headerUnder]

end Document
end Folio
