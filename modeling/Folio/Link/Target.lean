import Folio.Html.Entity
import Folio.Text.Blank
import Folio.Url.Normal

/-!
# Destinations, titles and labels

The parts of a link behind its text: where it leads, the title it has, and the label
that names a definition elsewhere in the document.
-/

namespace Folio
namespace Link

open Text

/-- Where a link leads, and its title. -/
structure Target where
  href : List Char
  title : List Char
  deriving DecidableEq, Repr

/-- A destination in angle brackets after the opening one, and what follows it. -/
def bracketed? (taken : List Char) : List Char -> Option (List Char × List Char)
  | [] => none
  | '\n' :: _ => none
  | '<' :: _ => none
  | '>' :: rest => some (taken.reverse, rest)
  | '\\' :: c :: rest => bracketed? (c :: '\\' :: taken) rest
  | c :: rest => bracketed? (c :: taken) rest

/-- A bare destination, and what follows it. Parentheses in it are balanced. A backslash
does not keep a space in it. -/
def bare? (taken : List Char) (depth : Nat) : List Char -> Option (List Char × List Char)
  | [] => if depth = 0 then some (taken.reverse, []) else none
  | '\\' :: c :: rest =>
      if c = ' ' then
        if depth = 0 then some (taken.reverse, '\\' :: c :: rest) else none
      else
        bare? (c :: '\\' :: taken) depth rest
  | c :: rest =>
      if c.toNat ≤ 0x20 || c.toNat = 0x7F then
        if depth = 0 then some (taken.reverse, c :: rest) else none
      else if c = '(' then
        if 32 ≤ depth then none else bare? (c :: taken) (depth + 1) rest
      else if c = ')' then
        if depth = 0 then some (taken.reverse, c :: rest) else bare? (c :: taken) (depth - 1) rest
      else
        bare? (c :: taken) depth rest

/-- A destination at the start of a text, and what follows it. -/
def destination? (s : List Char) : Option (List Char × List Char) :=
  match s with
  | '<' :: rest => (bracketed? [] rest).map fun found => (Html.unescape found.1, found.2)
  | _ =>
      match bare? [] 0 s with
      | some (dest, rest) => if dest.isEmpty then none else some (Html.unescape dest, rest)
      | none => none

/-- How the reading of a title ends. -/
inductive TitleEnd where
  /-- The title and what follows it. -/
  | closed (title rest : List Char)
  /-- The text ended inside the title. -/
  | unfinished
  /-- There is no title here. -/
  | none
  deriving DecidableEq, Repr

/-- A title up to its closing mark. -/
def titleBody (mark : Char) (taken : List Char) : List Char -> TitleEnd
  | [] => .unfinished
  | '\\' :: c :: rest =>
      titleBody mark (c :: '\\' :: taken) rest
  | c :: rest =>
      if c = mark then .closed (Html.unescape taken.reverse) rest
      else if c = '(' && mark = ')' then .none
      else titleBody mark (c :: taken) rest

/-- A title at the start of a text. -/
def title (s : List Char) : TitleEnd :=
  match s with
  | '"' :: rest => titleBody '"' [] rest
  | '\'' :: rest => titleBody '\'' [] rest
  | '(' :: rest => titleBody ')' [] rest
  | _ => .none

/-- Put one space in place of each run of blanks. -/
def collapseBlanks (inBlanks : Bool) : List Char -> List Char
  | [] => []
  | c :: rest =>
      if isProseBlank c then
        if inBlanks then collapseBlanks true rest else ' ' :: collapseBlanks true rest
      else
        c :: collapseBlanks false rest

/-- The form of a label in which two labels for the same definition agree. -/
def label (s : List Char) : List Char :=
  upper (lower (collapseBlanks false (trimProse s)))

/-- The definitions of a document, by label; the first of a label counts. -/
abbrev Definitions := List (List Char × Target)

/-- Look a definition up. -/
def Definitions.find? (defs : Definitions) (name : List Char) : Option Target :=
  (List.find? (fun d => d.1 == name) defs).map (·.2)

/-- Add a definition, unless its label has one. -/
def Definitions.add (defs : Definitions) (name : List Char) (target : Target) : Definitions :=
  if (defs.find? name).isSome then defs else defs ++ [(name, target)]

end Link
end Folio
