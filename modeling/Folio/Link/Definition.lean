import Folio.Link.Target

/-!
# Definitions of links

A paragraph may begin with definitions: a label in brackets, a colon, a destination,
and perhaps a title. The text of such a paragraph is read as one; a definition ends
with a line.
-/

namespace Folio
namespace Link

open Text

/-- The label up to its closing bracket, and what follows it. -/
def labelBody? (taken : List Char) : List Char -> Option (List Char × List Char)
  | [] => none
  | '\\' :: c :: rest => labelBody? (c :: '\\' :: taken) rest
  | c :: rest =>
      if c = '[' then none
      else if c = ']' then some (taken.reverse, rest)
      else labelBody? (c :: taken) rest

/-- Whether a character is a space, a tab or a line end. -/
def isGap (c : Char) : Bool :=
  isSpace c || c = '\n'

/-- Cut a text behind its first line end. -/
def breakLine (s : List Char) : List Char × List Char :=
  match s.dropWhile (· ≠ '\n') with
  | c :: rest => (s.takeWhile (· ≠ '\n') ++ [c], rest)
  | [] => (s, [])

/-- Whether nothing but spaces is left of a line. -/
def endsLine (s : List Char) : Bool :=
  match s.dropWhile isSpace with
  | [] => true
  | c :: _ => c = '\n'

/-- A definition of a link. -/
structure Definition where
  label : List Char
  target : Target
  deriving DecidableEq, Repr

/-- A title behind a destination, and what follows it. There must be a gap before the
title. -/
def titleAfter? (s : List Char) : Option (List Char × List Char) :=
  let rest := s.dropWhile isGap
  if rest.length = s.length then
    none
  else
    match title rest with
    | .closed name after => some (name, after)
    | _ => none

/-- The title behind a destination, and what follows it. With other text behind it, what
looks like a title is none, but then the destination must end its own line. -/
def definitionTitle? (s : List Char) : Option (List Char × List Char) :=
  match titleAfter? s with
  | some (name, after) =>
      if endsLine after then some (name, after)
      else if !name.isEmpty && endsLine s then some ([], s)
      else none
  | none => if endsLine s then some ([], s) else none

/-- The definition at the start of a text, and what follows it. A line end that was
taken as part of the destination still ends the line. -/
def definition? (s : List Char) : Option (Definition × List Char) :=
  match s with
  | '[' :: body =>
      match labelBody? [] body with
      | some (name, ':' :: rest) =>
          let line := breakLine (rest.dropWhile isGap)
          match destination? line.1 with
          | none => none
          | some (dest, tail) =>
              let href := Url.normalize dest
              let key := label name
              let titled :=
                if tail.isEmpty && line.1.getLast? = some '\n' then some ([], '\n' :: line.2)
                else definitionTitle? (tail ++ line.2)
              match titled with
              | none => none
              | some (title, after) =>
                  if Url.isAllowed href && !key.isEmpty then
                    some (⟨key, ⟨href, title⟩⟩, after)
                  else
                    none
      | _ => none
  | _ => none

/-- How many lines a definition takes that leaves `rest` of a text. -/
def linesBefore (s rest : List Char) : Nat :=
  s.count '\n' - rest.count '\n' + 1

end Link
end Folio
