import Folio.Heading.Anchors
import Folio.Html.Escape
import Folio.Text.Search

/-!
# The table of contents

A list of links to the listed headings. The text of an entry is markup already, so
placeholders of math in it are resolved together with the rest of the document.
-/

namespace Folio
namespace Heading

open Text Html

/-- The title of the table for a direction of writing. -/
def contentsTitle (direction : List Char) : List Char :=
  if direction = "rtl".toList then "תוכן עניינים".toList else "Contents".toList

/-- One line of the table. -/
def contentsItem (e : Entry) : List Char :=
  let id := escapeAttribute e.id
  "<li class=\"toc-level-".toList ++ Number.intText e.level ++ "\"><a href=\"#".toList ++ id ++
    "\" data-heading-id=\"".toList ++ id ++ "\">".toList ++ e.text ++ "</a></li>".toList

/-- The table of contents, or nothing where it is switched off or would be empty. -/
def contents (entries : List Entry) (enabled : Bool) (direction : List Char) : List Char :=
  if !enabled || entries.isEmpty then
    []
  else
    "<nav class=\"doc-toc\">\n<div class=\"toc-title\">".toList ++ contentsTitle direction ++
      "</div>\n<ul>\n".toList ++ joinWith ['\n'] (entries.map contentsItem) ++
      "\n</ul>\n</nav>\n".toList

end Heading
end Folio
