import Folio.Text.Blank
import Folio.Text.Case
import Folio.Text.Word

/-!
# Container tags

A container is a `div` or `span` element whose class names a word of the vocabulary.
Here are the words, the recognition of opening and closing tags, and the reading of
the class from the attributes of a tag. Letters of tags and attribute names may have
either case; the words of the vocabulary may not.
-/

namespace Folio
namespace Container

open Text

/-- The classes of containers that stand as blocks. -/
def blockNames : List (List Char) :=
  ["theory".toList, "solution".toList, "example".toList, "proof".toList, "warning".toList,
   "code-snippet".toList, "two-columns".toList, "side-note".toList, "inline-list".toList,
   "compact-table".toList, "lead".toList, "text-center".toList, "text-start".toList,
   "text-end".toList, "text-justify".toList, "no-break".toList]

/-- The classes of containers that stand within a line. -/
def inlineNames : List (List Char) :=
  ["important".toList]

/-- All classes of containers. -/
def names : List (List Char) :=
  blockNames ++ inlineNames

/-- What follows a word at the start of a text, whatever the case of its letters. -/
def dropLetters? : List Char -> List Char -> Option (List Char)
  | [], s => some s
  | _ :: _, [] => none
  | p :: ps, c :: cs => if sameLetter p c then dropLetters? ps cs else none

/-- Whether a text does not start with a character of a word. -/
def atWordEnd : List Char -> Bool
  | [] => true
  | c :: _ => !isWord c

/-- An opening tag. -/
structure OpenTag where
  /-- The name as it was written. -/
  name : List Char
  /-- What stands between the name and the closing bracket. -/
  attributes : List Char
  deriving DecidableEq, Repr

/-- The tag as it was written. -/
def OpenTag.text (tag : OpenTag) : List Char :=
  '<' :: tag.name ++ tag.attributes ++ ['>']

/-- Whether a tag opens an element that stands as a block. -/
def OpenTag.isDiv (tag : OpenTag) : Bool :=
  lower tag.name == "div".toList

/-- The opening tag of an element with the given name, at the start of a text, and what
follows it. -/
def openTagNamed? (name s : List Char) : Option (OpenTag × List Char) :=
  match s with
  | '<' :: rest =>
      match dropLetters? name rest with
      | some after =>
          if atWordEnd after then
            let attributes := after.takeWhile fun c => c ≠ '<' && c ≠ '>'
            match after.dropWhile fun c => c ≠ '<' && c ≠ '>' with
            | '>' :: tail => some (⟨rest.take name.length, attributes⟩, tail)
            | _ => none
          else
            none
      | none => none
  | _ => none

/-- The opening tag of a `div` or `span` at the start of a text, and what follows it. -/
def openTag? (s : List Char) : Option (OpenTag × List Char) :=
  match openTagNamed? "div".toList s with
  | some found => some found
  | none => openTagNamed? "span".toList s

/-- The closing tag of an element at the start of a text, and what follows it. -/
def closeTag? (name s : List Char) : Option (List Char × List Char) :=
  match s with
  | '<' :: '/' :: rest =>
      match dropLetters? name rest with
      | some after =>
          match after.dropWhile isBlank with
          | '>' :: tail => some (s.take (s.length - tail.length), tail)
          | _ => none
      | none => none
  | _ => none

/-- What stands before the first closing tag of an element, that tag, and what follows. -/
def breakAtClose? (name : List Char) : List Char -> Option (List Char × List Char × List Char)
  | [] => none
  | c :: rest =>
      match closeTag? name (c :: rest) with
      | some found => some ([], found)
      | none => (breakAtClose? name rest).map fun found => (c :: found.1, found.2)

/-- The value of a class attribute that starts here. -/
def classValue? (s : List Char) : Option (List Char) := do
  let rest <- dropLetters? "class".toList s
  match rest.dropWhile isBlank with
  | '=' :: rest =>
      match rest.dropWhile isBlank with
      | quote :: value =>
          if (quote = '"' || quote = '\'') && value.contains quote then
            some (value.takeWhile (· ≠ quote))
          else
            none
      | [] => none
  | _ => none

/-- The value of the first class attribute; `inWord` says whether a word goes on here. -/
def firstClassValue? (inWord : Bool) : List Char -> Option (List Char)
  | [] => none
  | c :: rest =>
      match (if inWord then none else classValue? (c :: rest)) with
      | some value => some value
      | none => firstClassValue? (isWord c) rest

/-- The first word of the vocabulary in the class of a tag. -/
def className? (attributes : List Char) : Option (List Char) :=
  (firstClassValue? false attributes).bind fun value => (words value).find? (names.contains ·)

/-- Whether markup opens with a container that stands as a block. -/
def isBlock (markup : List Char) : Bool :=
  match openTag? (trimLeft markup) with
  | some (tag, _) =>
      tag.isDiv &&
        match className? tag.attributes with
        | some name => blockNames.contains name
        | none => false
  | none => false

end Container
end Folio
