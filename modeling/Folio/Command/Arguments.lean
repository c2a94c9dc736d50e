import Folio.Text.Digit
import Folio.Text.Quoted
import Folio.Text.Search

/-!
# Arguments

The program takes at most one path and a few flags. A long flag may be cut short as long
as it is clear which one is meant. After two dashes everything is a path.
-/

namespace Folio
namespace Command

open Text

/-- The flags. -/
inductive Flag where
  | help
  | ltr
  | verbose
  deriving DecidableEq, Repr

/-- The ways to write the flags, in the order in which they are listed. -/
def spellings : List (List Char × Flag) :=
  [("-h".toList, .help), ("--help".toList, .help), ("--ltr".toList, .ltr),
   ("--verbose".toList, .verbose)]

/-- A flag as messages name it. -/
def Flag.title : Flag -> List Char
  | help => "-h/--help".toList
  | ltr => "--ltr".toList
  | verbose => "--verbose".toList

/-- Why arguments are refused. -/
inductive UsageFault where
  | ambiguous (argument : List Char) (spellings : List (List Char))
  /-- A flag was given a value, but takes none. -/
  | unwantedValue (flag : Flag) (value : List Char)
  | unrecognized (arguments : List (List Char))
  deriving DecidableEq, Repr

namespace UsageFault

/-- What is said of a fault. -/
def message : UsageFault -> List Char
  | ambiguous argument spellings =>
      "ambiguous option: ".toList ++ argument ++ " could match ".toList ++
        joinWith ", ".toList spellings
  | unwantedValue flag value =>
      "argument ".toList ++ flag.title ++ ": ignored explicit argument ".toList ++ quoted value
  | unrecognized arguments =>
      "unrecognized arguments: ".toList ++ joinWith [' '] arguments

end UsageFault

/-! ## Single arguments -/

/-- What an argument is. -/
inductive Word where
  | plain (s : List Char)
  /-- Two dashes, after which everything is plain. -/
  | dashes
  /-- A flag as it is spelled in full, with a value if one was given. -/
  | flag (spelling : List Char) (flag : Flag) (value : Option (List Char))
  | unknown (s : List Char)
  deriving DecidableEq, Repr

/-- The argument as it was written. -/
def Word.text : Word -> List Char
  | plain s => s
  | dashes => "--".toList
  | flag spelling _ _ => spelling
  | unknown s => s

/-- The text before an equals sign, and the text after it if there is one. -/
def splitValue (s : List Char) : List Char × Option (List Char) :=
  match breakOn? ['='] s with
  | some (before, after) => (before, some after)
  | none => (s, none)

/-- Whether a text is a negative number. -/
def isNegativeNumber (s : List Char) : Bool :=
  match s with
  | '-' :: rest =>
      let rest := if rest.getLast? = some '\n' then rest.dropLast else rest
      let whole := rest.takeWhile isDigit
      match rest.dropWhile isDigit with
      | [] => !whole.isEmpty
      | '.' :: fraction => !fraction.isEmpty && fraction.all isDigit
      | _ => false
  | _ => false

/-- The flags that an argument may stand for without being the spelling of one. -/
def candidates (s : List Char) : List Word :=
  match s with
  | '-' :: '-' :: _ =>
      let (start, value) := splitValue s
      (spellings.filter fun p => startsWith start p.1).map fun p => .flag p.1 p.2 value
  | _ =>
      spellings.filterMap fun p =>
        if p.1 = s.take 2 then some (.flag p.1 p.2 (some (s.drop 2)))
        else if startsWith s p.1 then some (.flag p.1 p.2 none)
        else none

/-- The flag of a spelling. -/
def flagOf? (s : List Char) : Option Flag :=
  (spellings.find? fun p => p.1 == s).map (·.2)

/-- The flag that an argument names in full, with or without a value. -/
def fullFlag? (s : List Char) : Option Word :=
  match flagOf? s with
  | some f => some (.flag s f none)
  | none =>
      match splitValue s with
      | (before, some value) => (flagOf? before).map fun f => .flag before f (some value)
      | (_, none) => none

/-- What an argument is, as long as there were no two dashes. -/
def classify (s : List Char) : Except UsageFault Word :=
  match s with
  | [] => .ok (.plain s)
  | [_] => .ok (.plain s)
  | c :: _ =>
      if c != '-' then
        .ok (.plain s)
      else
        match fullFlag? s, candidates s with
        | some w, _ => .ok w
        | none, [w] => .ok w
        | none, [] =>
            if isNegativeNumber s || s.contains ' ' then .ok (.plain s) else .ok (.unknown s)
        | none, ws => .error (.ambiguous s (ws.map Word.text))

/-- What the arguments are. -/
def classifyAll : List (List Char) -> Except UsageFault (List Word)
  | [] => .ok []
  | s :: rest =>
      if s = "--".toList then
        .ok (.dashes :: rest.map .plain)
      else do
        let w <- classify s
        let ws <- classifyAll rest
        pure (w :: ws)

/-! ## All arguments -/

/-- What the arguments ask for. -/
structure Request where
  path : Option (List Char)
  leftToRight : Bool
  verbose : Bool
  deriving DecidableEq, Repr

/-- What becomes of the arguments. -/
inductive Reading where
  | request (r : Request)
  | help
  | fault (f : UsageFault)
  deriving DecidableEq, Repr

/-- The arguments read so far. -/
structure Progress where
  request : Request
  /-- Whether the path has had its turn. -/
  pathDone : Bool
  /-- What could not be used. -/
  extras : List (List Char)

/-- Flags with one dash may be run together: what looks like the value of one is more of
them. Only the flag for help has one dash. -/
def bundled (spelling value : List Char) : Option (List Char) :=
  if spelling = "-h".toList then
    let rest := value.dropWhile (· = 'h')
    if rest.isEmpty && !value.isEmpty then none else some rest
  else
    some value

/-- Set a flag that does not end the reading. -/
def Request.set (r : Request) : Flag -> Request
  | .help => r
  | .ltr => { r with leftToRight := true }
  | .verbose => { r with verbose := true }

/-- Whether a word is a flag or looks like one. -/
def Word.isOption : Word -> Bool
  | plain _ | dashes => false
  | flag _ _ _ | unknown _ => true

/-- Read the words after the last flag. The first of them is the path, with or without two
dashes around it, unless there was a path before. -/
def readTail (p : Progress) (ws : List Word) : Progress :=
  if p.pathDone then
    { p with extras := p.extras ++ ws.map Word.text }
  else
    match ws with
    | .dashes :: w :: rest | w :: .dashes :: rest | w :: rest =>
        if w = .dashes then
          { p with extras := p.extras ++ rest.map Word.text }
        else
          { p with
            request := { p.request with path := some w.text }
            extras := p.extras ++ rest.map Word.text }
    | [] => p

/-- Read words from left to right. -/
def readWords (p : Progress) : List Word -> Reading
  | [] => finish p
  | w :: rest =>
      match w with
      | .flag spelling flag value =>
          match value.bind (bundled spelling) with
          | some value => .fault (.unwantedValue flag value)
          | none =>
              if flag = .help then .help
              else readWords { p with request := p.request.set flag } rest
      | .unknown s => readWords { p with extras := p.extras ++ [s] } rest
      | .plain s =>
          if (w :: rest).any Word.isOption then
            if p.pathDone then
              readWords { p with extras := p.extras ++ [s] } rest
            else
              readWords
                { p with request := { p.request with path := some s }, pathDone := true } rest
          else
            finish (readTail p (w :: rest))
      | .dashes => finish (readTail p (w :: rest))
where
  finish (p : Progress) : Reading :=
    if p.extras.isEmpty then .request p.request else .fault (.unrecognized p.extras)

/-- Read the arguments. -/
def readArguments (arguments : List (List Char)) : Reading :=
  match classifyAll arguments with
  | .error f => .fault f
  | .ok ws => readWords ⟨⟨none, false, false⟩, false, []⟩ ws

/-! ## Texts -/

/-- How the program is called. -/
def usage : List Char :=
  "usage: mdcompose [-h] [--ltr] [--verbose] [path]\n".toList

/-- What is said of a fault in the arguments. -/
def faultText (f : UsageFault) : List Char :=
  usage ++ "mdcompose: error: ".toList ++ f.message ++ ['\n']

end Command
end Folio
