import Folio.Files.Path

/-!
# Sources of the typesetter

The page loads its typesetter from a script on this machine, if there is one, and else
from the network.
-/

namespace Folio
namespace Document

open Files

/-- The addresses on the network, the preferred one first. -/
def remoteSources : List (List Char) :=
  ["https://cdn.jsdelivr.net/npm/mathjax@3/es5/tex-svg.js".toList,
   "https://cdn.jsdelivr.net/npm/mathjax@3/es5/tex-mml-chtml.js".toList]

/-- The addresses to try in turn; a script that has no address is refused. -/
def sources? (script : Option Path) : Option (List (List Char)) :=
  match script with
  | none => some remoteSources
  | some p => p.uri?.map (· :: remoteSources)

/-- Only a script whose path does not start at the root is refused. -/
theorem isSome_sources? (script : Option Path) :
    (sources? script).isSome = script.all Path.isAbsolute := by
  cases script <;> simp [sources?, Path.isSome_uri?]

end Document
end Folio
