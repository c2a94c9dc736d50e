import Folio.Files.Machine

/-!
# The script of the typesetter

The script of the typesetter is the one that the user names, or else one beside the
program, or else one that is installed on the machine. Of the two scripts that would
do, the one whose output has stable sizes is looked for first.
-/

namespace Folio
namespace Files
namespace Machine

open Text

/-- The names of the scripts, the preferred one first. -/
def scriptNames : List String :=
  ["tex-svg.js", "tex-mml-chtml.js"]

/-- The script that the user names. -/
def namedScript (m : Machine) : Except FileFault (Option Path) :=
  let s := trim m.scriptSetting
  if s.isEmpty then .ok none else (m.expandHome (.ofText s)).map some

/-- The places in which scripts may be installed, for a folder of the program. -/
def installedScripts (m : Machine) (program : Path) : List Path :=
  scriptNames.flatMap fun name =>
    (program.file "mathjax" :: m.scriptFolders).map fun folder => (folder.file "es5").file name

/-- The script to use, if there is one. -/
def script (m : Machine) (program : Path) : Except FileFault (Option Path) := do
  let named <- m.namedScript
  match (named.toList ++ m.installedScripts program).find? fun p =>
      m.isFile p matches .ok true with
  | none => return none
  | some p =>
      let place <- m.resolve p
      return some (.ofNames place)

end Machine
end Files
end Folio
