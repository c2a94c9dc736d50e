import Folio.Command.Arguments
import Folio.Command.Sample
import Folio.Files.Memory

/-!
# Starting the program

The program opens the document that its arguments name, or the one that it remembers,
or a sample. It either opens a window or says why it does not.
-/

namespace Folio
namespace Command

open Text Files

/-- What a window is opened on. -/
structure Opening where
  text : List Char
  document : Option Path
  direction : Direction
  deriving DecidableEq, Repr

/-- How the program ends before there is a window. -/
structure Ending where
  status : Nat
  output : List Char
  errors : List Char
  deriving DecidableEq, Repr

/-- What a start leads to. -/
inductive Outcome where
  | opened (o : Opening)
  | ended (e : Ending)
  deriving DecidableEq, Repr

/-- The help. -/
def help : List Char :=
  usage ++
    lines
      ["",
       "Compose academic documents with a live themed preview.",
       "",
       "positional arguments:",
       "  path        Markdown file to open (default: last file named in",
       "              ~/.mdcompose.cfg, or a sample document).",
       "",
       "options:",
       "  -h, --help  show this help message and exit",
       "  --ltr       Start in left-to-right mode.",
       "  --verbose   Log pipeline diagnostics to stderr."]

/-- An end with a message. -/
def refuse (message : List Char) : Outcome :=
  .ended ⟨2, [], message⟩

/-- The direction that arguments ask for. -/
def Request.direction (r : Request) : Direction :=
  if r.leftToRight then .ltr else .rtl

variable {σ : Type}

/-- The document to open, if any. -/
def documentFor (sys : System σ) (r : Request) (s : σ) : Except FileFault (Option Path) :=
  match r.path with
  | some name => (expandWith (sys.answers s).homeOf (.ofText name)).map some
  | none => do
      let memory <- sys.memoryPath s
      (sys.answers s).remembered memory

/-- What is said of a document that is no file. -/
def noFileText (p : Path) : List Char :=
  "File does not exist: ".toList ++ p.text ++ ['\n']

/-- What is said of a document that cannot be read. -/
def readFaultText (p : Path) (f : FileFault) : List Char :=
  "Could not read ".toList ++ p.text ++ ": ".toList ++ f.message p ++ ['\n']

/-- Open a document and remember it. -/
def openDocument (sys : System σ) (p : Path) (d : Direction) (s : σ) :
    Except FileFault (Outcome × σ) := do
  if !(<- (sys.answers s).isFile p) then
    return (refuse (noFileText p), s)
  match (sys.answers s).readText p with
  | .error f => if f.isUnreadable then return (refuse (readFaultText p f), s) else throw f
  | .ok text =>
      let memory <- sys.memoryPath s
      let saved <- sys.remember p memory s
      return (.opened ⟨text, some p, d⟩, saved.2)

/-- Start with arguments that were read. -/
def startWith (sys : System σ) (r : Request) (s : σ) : Except FileFault (Outcome × σ) := do
  match (<- documentFor sys r s) with
  | some p => openDocument sys p r.direction s
  | none => return (.opened ⟨sampleText, none, r.direction⟩, s)

/-- Start with arguments, in a state of a system of files. -/
def startIn (sys : System σ) (arguments : List (List Char)) (s : σ) :
    Except FileFault (Outcome × σ) :=
  match readArguments arguments with
  | .help => .ok (.ended ⟨0, help, []⟩, s)
  | .fault f => .ok (refuse (faultText f), s)
  | .request r => startWith sys r s

/-- Start with arguments on a machine. -/
def start (m : Machine) (arguments : List (List Char)) : Except FileFault (Outcome × Machine) :=
  startIn Machine.system arguments m

end Command
end Folio
