import Folio.Url.Percent

/-!
# Paths

A path is a sequence of names, and starts at the root of all folders or at a folder
that is not named. Empty names and single dots are dropped when a path is read; two
dots are kept, because what they mean depends on the folders there are.
-/

namespace Folio
namespace Files

open Text

/-- Where a path starts. -/
inductive Root where
  /-- At a folder that is not named. -/
  | relative
  | absolute
  /-- At the root, written with exactly two slashes. -/
  | doubled
  deriving DecidableEq, Repr

/-- A path. -/
structure Path where
  root : Root
  names : List (List Char)
  deriving DecidableEq, Repr

/-- Whether a name takes a step. -/
def isStep (name : List Char) : Bool :=
  !name.isEmpty && name != ['.']

/-- The names in a text that are steps. -/
def steps (s : List Char) : List (List Char) :=
  (splitOn '/' s).filter isStep

namespace Root

/-- The root that a text starts with. -/
def ofText : List Char -> Root
  | '/' :: '/' :: '/' :: _ => absolute
  | '/' :: '/' :: _ => doubled
  | '/' :: _ => absolute
  | _ => relative

/-- How a root is written. -/
def text : Root -> List Char
  | relative => []
  | absolute => ['/']
  | doubled => ['/', '/']

end Root

namespace Path

/-- Read a path. -/
def ofText (s : List Char) : Path :=
  ⟨Root.ofText s, steps s⟩

/-- A path from the root. -/
def ofNames (names : List (List Char)) : Path :=
  ⟨.absolute, names⟩

/-- Whether a path starts at the root. -/
def isAbsolute (p : Path) : Bool :=
  p.root ≠ .relative

/-- Write a path. The path without names is a dot. -/
def text (p : Path) : List Char :=
  match p.root, p.names with
  | .relative, [] => ['.']
  | root, names => root.text ++ joinWith ['/'] names

/-- The path that `q` names as seen from `p`. -/
def join (p q : Path) : Path :=
  if q.isAbsolute then q else ⟨p.root, p.names ++ q.names⟩

/-- A path without its last name. -/
def parent (p : Path) : Path :=
  ⟨p.root, p.names.dropLast⟩

/-- A file in the folder of a path. -/
def file (p : Path) (name : String) : Path :=
  ⟨p.root, p.names ++ [name.toList]⟩

/-- Letters, digits and marks that are not escaped in the address of a file. -/
def isAddressChar (c : Char) : Bool :=
  Pattern.isAsciiLetter c || Pattern.isAsciiDigit c || "_.-~/".toList.contains c

/-- The address of a file; only a path from the root has one. -/
def uri? (p : Path) : Option (List Char) :=
  if p.isAbsolute then
    some ("file://".toList ++
      p.text.flatMap fun c => if isAddressChar c then [c] else Url.escapeChar c)
  else
    none

theorem join_absolute (p q : Path) (h : q.isAbsolute = true) : p.join q = q := by
  simp [join, h]

/-- Exactly the paths from the root have an address. -/
theorem isSome_uri? (p : Path) : p.uri?.isSome = p.isAbsolute := by
  unfold uri?
  cases h : p.isAbsolute <;> simp

end Path
end Files
end Folio
