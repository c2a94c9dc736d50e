import Folio.Files.Path
import Folio.Text.Quoted
import Folio.Text.Utf8

/-!
# Files and folders

A store holds files and folders under places. A place is the sequence of names that
leads to it from the root. Everything above a file or a folder is a folder.
-/

namespace Folio
namespace Files

open Text

/-- The names that lead to a file or a folder from the root. -/
abbrev Place := List (List Char)

/-- Why something cannot be done with a file. -/
inductive FileFault where
  | missing
  | notFolder
  | isFolder
  | nameTooLong
  /-- The path holds a null character. -/
  | nullName
  /-- The home of a user is not known. -/
  | noHome
  /-- The file holds no text. -/
  | noText (fault : Utf8Fault)
  deriving DecidableEq, Repr

/-- Whether a fault is reported by the store, and not found before or after asking it. -/
def FileFault.isReported : FileFault -> Bool
  | missing | notFolder | isFolder | nameTooLong => true
  | nullName | noHome | noText _ => false

/-- Whether a fault says that a file cannot be read as text. -/
def FileFault.isUnreadable : FileFault -> Bool
  | noText _ => true
  | f => f.isReported

/-- What is said of a fault with the file at a path. -/
def FileFault.message (p : Path) : FileFault -> List Char
  | missing => "[Errno 2] No such file or directory: ".toList ++ quoted p.text
  | notFolder => "[Errno 20] Not a directory: ".toList ++ quoted p.text
  | isFolder => "[Errno 21] Is a directory: ".toList ++ quoted p.text
  | nameTooLong => "[Errno 36] File name too long: ".toList ++ quoted p.text
  | nullName => "embedded null byte".toList
  | noHome => "Could not determine home directory.".toList
  | noText fault => fault.message

/-- What is found at a place. -/
inductive Kind where
  | file
  | folder
  deriving DecidableEq, Repr

/-- Files with their bytes, and folders. -/
structure Store where
  files : List (Place × List Nat)
  folders : List Place
  deriving DecidableEq, Repr

/-- The greatest count of bytes in a name. -/
def nameLimit : Nat := 255

/-- The least count of bytes that is too much for a path. -/
def pathLimit : Nat := 4096

namespace Store

/-- The bytes of the file at a place. -/
def bytes? (s : Store) (at_ : Place) : Option (List Nat) :=
  (s.files.find? fun f => f.1 == at_).map (·.2)

/-- Whether there is a folder at a place. -/
def hasFolder (s : Store) (at_ : Place) : Bool :=
  at_.isEmpty || s.folders.any (at_.isPrefixOf ·) ||
    s.files.any fun f => at_.isPrefixOf f.1 && f.1 != at_

/-- What is at a place. -/
def kind? (s : Store) (at_ : Place) : Option Kind :=
  if (s.bytes? at_).isSome then some .file
  else if s.hasFolder at_ then some .folder
  else none

/-- Walk from a place along names; two dots lead back. -/
def walk (s : Store) (at_ : Place) : List (List Char) -> Except FileFault Place
  | [] => if (s.kind? at_).isSome then .ok at_ else .error .missing
  | name :: rest =>
      match s.kind? at_ with
      | none => .error .missing
      | some .file => .error .notFolder
      | some .folder =>
          if nameLimit < (utf8Bytes name).length then .error .nameTooLong
          else if name = "..".toList then s.walk at_.dropLast rest
          else s.walk (at_ ++ [name]) rest

/-- A walk ends only in faults that a store reports. -/
theorem isReported_of_walk {s : Store} {at_ : Place} {names : List (List Char)} {f : FileFault}
    (h : s.walk at_ names = .error f) : f.isReported = true := by
  induction names generalizing at_ with
  | nil =>
      unfold walk at h
      split at h <;> cases h
      rfl
  | cons name rest ih =>
      unfold walk at h
      split at h
      · cases h
        rfl
      · cases h
        rfl
      · split at h
        · cases h
          rfl
        · split at h
          · exact ih h
          · exact ih h

/-- Put bytes into the file at a place. -/
def put (s : Store) (at_ : Place) (bytes : List Nat) : Store :=
  { s with files := (at_, bytes) :: s.files.filter fun f => f.1 != at_ }

/-- What was put is found. -/
@[simp] theorem bytes?_put (s : Store) (at_ : Place) (bytes : List Nat) :
    (s.put at_ bytes).bytes? at_ = some bytes := by
  simp [put, bytes?]

end Store
end Files
end Folio
