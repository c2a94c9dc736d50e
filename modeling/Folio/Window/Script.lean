import Folio.Document.Rendered
import Folio.Fit.Plan
import Folio.Viewport.Zoom

/-!
# Scripts

All that the window wants of the page it asks for by scripts: to scale itself, to scroll,
to mark the heading that is read in its table of contents, to shrink math, and to report
its sizes.
-/

namespace Folio
namespace Window

open Number Text

/-- What the page is asked to do. -/
inductive Script (α : Type) where
  | scale (t : Viewport.Transform α)
  | scrollTo (top : α)
  /-- Scroll to a part of the way. -/
  | scrollToFraction (fraction : α)
  | markHeading (id : Option (List Char))
  /-- Report the widths of display math. -/
  | measure
  /-- Report the height of the page and where its headings are. -/
  | report
  | shrink (plan : List (Fit.Transform α))

variable {α : Type} [Scalar α]

/-- The room below the page as a value of its style; no room is an empty value. -/
def marginText (x : α) : List Char :=
  if Scalar.same x Scalar.zero then [] else (Scalar.exact x).plain ++ "px".toList

/-- The style that scales the page. -/
def scaleStyle (t : Viewport.Transform α) : List Char :=
  Json.stringFields
    [("transform".toList, t.css),
     ("transformOrigin".toList, Viewport.origin),
     ("marginBottom".toList, marginText t.marginBottom)]

/-- The script that scales the page. -/
def scaleScript (t : Viewport.Transform α) : List Char :=
  lines
    ["",
     "(() => \x7b",
     "  const page = document.querySelector(\".preview-page\");",
     "  if (!page) \x7b",
     "    return false;",
     "  \x7d"] ++
    "  Object.assign(page.style, ".toList ++ scaleStyle t ++
    lines [");", "  return true;", "\x7d)();"]

/-- The script that marks a heading in the table of contents, and no other. -/
def markScript (id : Option (List Char)) : List Char :=
  lines ["", "(() => \x7b"] ++ "  const activeId = ".toList ++ Json.stringOrNull id ++
    lines
      [";",
       "  document.querySelectorAll(\".doc-toc a[data-heading-id]\").forEach((link) => \x7b",
       "    link.classList.toggle(\"active\", link.getAttribute(\"data-heading-id\") === activeId);",
       "  \x7d);",
       "\x7d)();"]

/-- The script that reports the height of the page and where its headings are. -/
def reportScript : List Char :=
  lines
    ["",
     "(() => \x7b",
     "  const page = document.querySelector(\".preview-page\");",
     "  if (!page) \x7b",
     "    return \x7b pageHeight: 0, pageTop: 0, headings: [] \x7d;",
     "  \x7d",
     "  const pageRect = page.getBoundingClientRect();",
     "  // Offsets come back unscaled; the coordinator applies the current zoom.",
     "  const scale = page.offsetHeight ? pageRect.height / page.offsetHeight : 1;",
     "  const offsetOf = (node) => (node.getBoundingClientRect().top - pageRect.top) / scale;",
     "  const headings = [];",
     "  document.querySelectorAll(\".doc-toc a[data-heading-id]\").forEach((link) => \x7b",
     "    const id = link.getAttribute(\"data-heading-id\");",
     "    const target = document.getElementById(id);",
     "    if (target) \x7b",
     "      headings.push([id, offsetOf(target)]);",
     "    \x7d",
     "  \x7d);",
     "  if (!headings.length) \x7b",
     "    page.querySelectorAll(\".preview-content h1[id], .preview-content h2[id]\")" ++
       ".forEach((node) => \x7b",
     "      headings.push([node.id, offsetOf(node)]);",
     "    \x7d);",
     "  \x7d",
     "  return \x7b",
     "    pageHeight: page.offsetHeight,",
     "    pageTop: pageRect.top + window.scrollY,",
     "    headings: headings,",
     "  \x7d;",
     "\x7d)();"]

/-- A script in full. -/
def Script.text (fitter : Fit.Fitter α) : Script α -> List Char
  | scale t => scaleScript t
  | scrollTo top => "window.scrollTo(0, ".toList ++ Json.number top ++ ");".toList
  | scrollToFraction x =>
      "window.scrollTo(0, ".toList ++ Json.number x ++
        (" * Math.max(0, document.documentElement.scrollHeight - " ++
          "window.innerHeight));").toList
  | markHeading id => markScript id
  | measure => fitter.measureScript
  | report => reportScript
  | shrink plan => fitter.applyScript plan

end Window
end Folio
