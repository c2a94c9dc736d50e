import Folio.Fit.Measurement
import Folio.Json
import Folio.Ledger
import Folio.Text.Lines

/-!
# Plans

A plan has a transform for every measured block that does not fit. Of several
transforms for one block the last counts, in the place of the first. The plan that was
made last is remembered.
-/

namespace Folio
namespace Fit

open Number Text Ledger

variable {α : Type} [Scalar α]

/-- The transforms of the blocks that do not fit. -/
def plan (ms : List (Measurement α)) : List (Transform α) :=
  ms.filterMap fun m => (scale? m.natural m.container).map (⟨m.index, ·⟩)

/-- The scales that a plan leaves on the page. -/
def applied (ts : List (Transform α)) : List (Int × α) :=
  noteAll (ts.map fun t => (t.index, t.scale))

/-- What is measured and shrunk, and what was shrunk last. -/
structure Fitter (α : Type) where
  selector : List Char
  applied : List (Int × α)

/-- Where display math is found on a page. -/
def blockSelector : List Char :=
  ".math-display".toList

namespace Fitter

/-- A fitter that has shrunk nothing. -/
def start (selector : List Char) : Fitter α :=
  ⟨selector, []⟩

/-- Forget what was shrunk. -/
def reset (f : Fitter α) : Fitter α :=
  { f with applied := [] }

/-- Plan for new measurements and remember the plan. -/
def plan (f : Fitter α) (ms : List (Measurement α)) : List (Transform α) × Fitter α :=
  let ts := Fit.plan ms
  (ts, { f with applied := Fit.applied ts })

/-- The line of a script that finds the blocks. -/
def findLine (selector : List Char) : List Char :=
  "  const blocks = Array.from(document.querySelectorAll(".toList ++ Json.string selector ++
    lines ["));"]

/-- The script that clears earlier transforms and reports the widths. -/
def measureScript (f : Fitter α) : List Char :=
  lines ["", "(() => \x7b"] ++ findLine f.selector ++
    lines
      ["  const out = [];",
       "  blocks.forEach((block, index) => \x7b",
       "    block.style.transform = \"\";",
       "    block.style.transformOrigin = \"\";",
       "    block.style.overflow = \"\";",
       "    block.style.width = \"\";",
       "    block.style.marginInline = \"\";",
       "    // An auto-width block fills its column, so its client width is the",
       "    // container's content width even in multi-column layouts.",
       "    out.push(\x7b",
       "      index: index,",
       "      natural: block.scrollWidth,",
       "      container: block.clientWidth,",
       "    \x7d);",
       "  \x7d);",
       "  return out;",
       "\x7d)();"]

/-- The transforms of a plan as data for the page. -/
def planData (ts : List (Transform α)) : List Char :=
  Json.stringFields (noteAll (ts.map fun t => (intText t.index, t.css)))

/-- The script that shrinks the blocks of a plan. -/
def applyScript (f : Fitter α) (ts : List (Transform α)) : List Char :=
  lines ["", "(() => \x7b"] ++ "  const plan = ".toList ++ planData ts ++ lines [";"] ++
    findLine f.selector ++
    lines
      ["  blocks.forEach((block, index) => \x7b",
       "    const transform = plan[String(index)];",
       "    if (!transform) \x7b",
       "      return;",
       "    \x7d",
       "    // Widen the box to its natural width, centered on the column, so the",
       "    // center-anchored scale lands exactly inside the column.",
       "    const natural = block.scrollWidth;",
       "    block.style.width = `$\x7bnatural\x7dpx`;",
       "    block.style.marginInline = `calc((100% - $\x7bnatural\x7dpx) / 2)`;",
       "    block.style.transformOrigin = \"center top\";",
       "    block.style.transform = transform;",
       "    block.style.overflow = \"hidden\";",
       "  \x7d);",
       "  return Object.keys(plan).length;",
       "\x7d)();"]

end Fitter

end Fit
end Folio
