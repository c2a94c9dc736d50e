import Folio.Command.Start
import Folio.Document.Page
import Folio.Document.Rendered
import Folio.Document.Sources
import Folio.Files.Script

/-!
# The program

The program writes the page of the document that it opens. This module only looks at the
disk and the clock, asks the library what to do, and does it.
-/

namespace Folio
namespace Program

open Files

/-- The bytes of a file on the disk, if it can be read. -/
def readBytes? (p : Path) : IO (Option (List Nat)) := do
  try
    let bytes <- IO.FS.readBinFile (String.ofList p.text)
    return some (bytes.toList.map UInt8.toNat)
  catch _ =>
    return none

/-- Whether a file on the disk can be opened. -/
def canOpen (p : Path) : IO Bool := do
  try
    let _ <- IO.FS.Handle.mk (String.ofList p.text) .read
    return true
  catch _ =>
    return false

/-- Add a file to the known part of the disk. -/
def addFile (m : Machine) (p : Path) (bytes : List Nat) : Machine :=
  match m.resolve p with
  | .ok place => { m with store := m.store.put place bytes }
  | .error _ => m

/-- Add a file with what is in it on the disk. -/
def load (m : Machine) (p : Path) : IO Machine := do
  match (<- readBytes? p) with
  | some bytes => return addFile m p bytes
  | none => return m

/-- The text of the file that remembers the document. -/
def memory (m : Machine) : Option (List Char) :=
  (m.readText m.memoryPath).toOption

/-- The path that a start with arguments asks about. -/
def wanted (m : Machine) (arguments : List (List Char)) : Option Path :=
  match Command.readArguments arguments with
  | .request r =>
      ((r.path <|> (memory m).map Text.trim).map Path.ofText).bind fun p =>
        (m.expandHome p).toOption
  | _ => none

/-- The machine, as far as the arguments ask about it. -/
def machine (arguments : List (List Char)) : IO Machine := do
  let home <- IO.getEnv "HOME"
  let script <- IO.getEnv "MDCOMPOSE_MATHJAX_JS"
  let folder <- IO.currentDir
  let here := (Path.ofText folder.toString.toList).names
  let m : Machine :=
    { store := ⟨[], [here]⟩
      here := here
      home := (home.getD "/").toList
      homes := [("root".toList, "/root".toList)]
      scriptSetting := (script.getD "").toList
      scriptFolders :=
        ["/usr/share/javascript/mathjax", "/usr/share/mathjax", "/usr/share/nodejs/mathjax"].map
          fun s => .ofText s.toList }
  let m := { m with store := { m.store with folders := m.homePath.names :: m.store.folders } }
  let m <- load m m.memoryPath
  match wanted m arguments with
  | some p => load m p
  | none => return m

/-- The script of the typesetter on the disk, if there is one. -/
def findScript (m : Machine) : IO (Option Path) := do
  let program := Path.ofText ((<- IO.appPath).toString.toList)
  let named := ((m.namedScript).toOption.bind id).toList
  let mut found := m
  for p in named ++ m.installedScripts program.parent do
    if (<- canOpen p) then
      found := addFile found p []
  return (found.script program.parent).toOption.bind id

/-- The date, by the time at which this process was made. -/
def today : IO Document.Date := do
  let folder <- IO.currentDir
  let process <- (folder.join "/proc/self").metadata
  return .ofDays (process.modified.sec.toNat / 86400)

/-- Write the page of what was opened. -/
def writePage (m : Machine) (o : Command.Opening) : IO Unit := do
  let settings : Settings Float := Command.openingSettings o.direction
  let sources := (Document.sources? (<- findScript m)).getD Document.remoteSources
  match Document.render (some Math.deferred) settings (<- today) o.text with
  | .ok (some d) =>
      match Document.page settings d.body d.stylesheet sources with
      | .ok page => IO.print (String.ofList page)
      | .error _ => return ()
  | _ => return ()

/-- Keep what was remembered on the disk. -/
def keepMemory (before after : Machine) : IO Unit := do
  match after.readBytes after.memoryPath with
  | .ok bytes =>
      if before.readBytes before.memoryPath matches .ok _ && memory before = memory after then
        return ()
      try
        IO.FS.writeBinFile (String.ofList after.memoryPath.text)
          (ByteArray.mk (bytes.map UInt8.ofNat).toArray)
      catch _ =>
        return ()
  | .error _ => return ()

end Program
end Folio

open Folio Folio.Program in
/-- Opens a document and writes its page. -/
def main (arguments : List String) : IO UInt32 := do
  let arguments := arguments.map String.toList
  let m <- machine arguments
  match Command.start m arguments with
  | .error _ => return 1
  | .ok (.ended e, _) =>
      IO.print (String.ofList e.output)
      IO.eprint (String.ofList e.errors)
      return UInt32.ofNat e.status
  | .ok (.opened o, after) =>
      keepMemory m after
      writePage after o
      return 0
