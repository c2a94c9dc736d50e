import Folio.Files.Store
import Folio.Text.Blank

/-!
# The machine

The program runs in a folder of a store, for a user with a home. Here are the questions
it asks the machine and the one thing it does there: writing a file.
-/

namespace Folio
namespace Files

open Text

/-- Where the program runs. -/
structure Machine where
  store : Store
  /-- The folder that relative paths start at. -/
  here : Place
  /-- The home of the user, as a path in text. -/
  home : List Char
  /-- The homes of other users, by name. -/
  homes : List (List Char × List Char)
  /-- The script of the typesetter that the user names; blank for none. -/
  scriptSetting : List Char
  /-- The folders in which the script of the typesetter may be installed. -/
  scriptFolders : List Path

/-- The text in the bytes of a file, with line ends in one form. -/
def textOf (bytes : List Nat) : Except FileFault (List Char) :=
  match decodeUtf8 bytes with
  | .ok s => .ok (unifyLineEnds s)
  | .error f => .error (.noText f)

/-- Put the home of a user in the place of a first name with a tilde. -/
def expandWith (homeOf : List Char -> Except FileFault (List Char)) (p : Path) :
    Except FileFault Path :=
  match p.root, p.names with
  | .relative, ('~' :: user) :: rest =>
      (homeOf user).map fun home =>
        let home := Path.ofText (if home.isEmpty then ['/'] else home)
        ⟨home.root, home.names ++ rest⟩
  | _, _ => .ok p

namespace Machine

/-- Where a path starts. -/
def startOf (m : Machine) (p : Path) : Place :=
  if p.isAbsolute then [] else m.here

/-- Refuse paths that the store cannot be asked about. -/
def checkPath (p : Path) : Except FileFault Unit :=
  if p.text.contains '\x00' then .error .nullName
  else if pathLimit ≤ (utf8Bytes p.text).length then .error .nameTooLong
  else .ok ()

/-- The place of an existing file or folder. -/
def locate (m : Machine) (p : Path) : Except FileFault Place := do
  checkPath p
  m.store.walk (m.startOf p) p.names

/-- What is found at a path. A path that leads nowhere finds nothing; a name that is too
long is a fault. -/
def find? (m : Machine) (p : Path) : Except FileFault (Option Kind) :=
  match m.locate p with
  | .ok place => .ok (m.store.kind? place)
  | .error .nameTooLong => .error .nameTooLong
  | .error _ => .ok none

/-- Whether there is a file at a path. -/
def isFile (m : Machine) (p : Path) : Except FileFault Bool :=
  (m.find? p).map (· == some .file)

/-- Whether there is anything at a path. -/
def isPresent (m : Machine) (p : Path) : Except FileFault Bool :=
  (m.find? p).map (·.isSome)

/-- Take a step to a name; two dots lead back. -/
def step (place : Place) (name : List Char) : Place :=
  if name = "..".toList then place.dropLast else place ++ [name]

/-- The place that a path names, whether or not there is anything. -/
def resolve (m : Machine) (p : Path) : Except FileFault Place :=
  if p.text.contains '\x00' then .error .nullName
  else .ok (p.names.foldl step (m.startOf p))

/-- The bytes of a file. -/
def readBytes (m : Machine) (p : Path) : Except FileFault (List Nat) := do
  let place <- m.locate p
  match m.store.bytes? place with
  | some bytes => .ok bytes
  | none => .error .isFolder

/-- The text of a file, with line ends in one form. -/
def readText (m : Machine) (p : Path) : Except FileFault (List Char) := do
  let bytes <- m.readBytes p
  textOf bytes

/-- The place of a file that may be written. -/
def placeToWrite (m : Machine) (p : Path) : Except FileFault Place := do
  checkPath p
  match p.names.getLast? with
  | none => .error .isFolder
  | some name =>
      let folder <- m.store.walk (m.startOf p) p.names.dropLast
      match m.store.kind? folder with
      | some .folder =>
          if nameLimit < (utf8Bytes name).length then .error .nameTooLong
          else
            let place := step folder name
            if m.store.kind? place = some .folder then .error .isFolder else .ok place
      | _ => .error .notFolder

/-- Write bytes to a file. A write that is refused changes nothing. -/
def write (p : Path) (bytes : List Nat) (m : Machine) : Except FileFault Unit × Machine :=
  match m.placeToWrite p with
  | .ok place => (.ok (), { m with store := m.store.put place bytes })
  | .error f => (.error f, m)

/-- The home that a first name with a tilde stands for. -/
def homeOf (m : Machine) (user : List Char) : Except FileFault (List Char) :=
  if user.isEmpty then
    .ok (dropRightWhile (· = '/') m.home)
  else if user.contains '\x00' then
    .error .nullName
  else
    match m.homes.find? fun h => h.1 == user with
    | some h => .ok (dropRightWhile (· = '/') h.2)
    | none => .error .noHome

/-- Put a home in the place of a first name with a tilde. -/
def expandHome (m : Machine) (p : Path) : Except FileFault Path :=
  expandWith m.homeOf p

/-- The home of the user. -/
def homePath (m : Machine) : Path :=
  .ofText m.home

end Machine

/-- Take a fault that the store reports for the answer that there is nothing. -/
def orNothing {β : Type} : Except FileFault (Option β) -> Except FileFault (Option β)
  | .error e => if e.isReported then .ok none else .error e
  | .ok found => .ok found

end Files
end Folio
