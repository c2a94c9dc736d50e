import Folio.Files.Machine

/-!
# The remembered document

The document that was opened last is remembered in a small file in the home of the user,
and is opened again when no other document is named. What is asked about files on the way,
and writing the small file, may end in a fault at every step, in this store or in another one.
-/

namespace Folio
namespace Files

open Text

/-- What is asked about files when a document is looked up, with answers as any system may
give them. Questions about what there is end only in faults that a store reports. The same
holds for reading what is present, and for the place of a file that was found. -/
structure Answers where
  isPresent : Path -> Except FileFault Bool
  readBytes : Path -> Except FileFault (List Nat)
  homeOf : List Char -> Except FileFault (List Char)
  isFile : Path -> Except FileFault Bool
  resolve : Path -> Except FileFault Place
  reported_isPresent : ∀ {p f}, isPresent p = .error f → f.isReported = true
  reported_readBytes :
    ∀ {p f}, isPresent p = .ok true → readBytes p = .error f → f.isReported = true
  reported_isFile : ∀ {p f}, isFile p = .error f → f.isReported = true
  reported_resolve : ∀ {p f}, isFile p = .ok true → resolve p = .error f → f.isReported = true

namespace Answers

/-- The text of a file, with line ends in one form. -/
def readText (a : Answers) (p : Path) : Except FileFault (List Char) := do
  let bytes <- a.readBytes p
  textOf bytes

/-- The place of the file at a path, if there is one. -/
def fileAt (a : Answers) (p : Path) : Except FileFault (Option Path) := do
  if (<- a.isFile p) then
    let place <- a.resolve p
    return some (.ofNames place)
  else
    return none

/-- The document that a text names, if it is a file. -/
def namedDocument (a : Answers) (s : List Char) : Except FileFault (Option Path) :=
  if s.isEmpty then
    .ok none
  else do
    let candidate <- expandWith a.homeOf (.ofText s)
    a.fileAt candidate

/-- The document that a file remembers. What the store reports counts as nothing. -/
def remembered (a : Answers) (memory : Path) : Except FileFault (Option Path) :=
  orNothing do
    if (<- a.isPresent memory) then
      let bytes <- a.readBytes memory
      let s <- textOf bytes
      a.namedDocument (trim s)
    else
      return none

end Answers

/-- A system of files: what it answers in each of its states, where it keeps the file in which
the document is remembered, and what becomes of the state when bytes are written to a file. A
write may leave something behind even if it ends in a fault. Reading a file that there is ends
only in faults that a store reports, and so does writing, unless the path holds a null
character. -/
structure System (σ : Type) where
  answers : σ -> Answers
  memoryPath : σ -> Except FileFault Path
  write : Path -> List Nat -> σ -> Except FileFault Unit × σ
  reported_readFile :
    ∀ {s p f}, (answers s).isFile p = .ok true → (answers s).readBytes p = .error f →
      f.isReported = true
  reported_write :
    ∀ {s p bytes f}, '\x00' ∉ p.text → (write p bytes s).1 = .error f → f.isReported = true

namespace System

variable {σ : Type}

/-- Remember a document; says whether that worked. -/
def remember (sys : System σ) (document memory : Path) (s : σ) : Except FileFault (Bool × σ) :=
  match (sys.answers s).resolve document with
  | .error f => if f.isReported then .ok (false, s) else .error f
  | .ok place =>
      match sys.write memory (utf8Bytes ((Path.ofNames place).text ++ ['\n'])) s with
      | (.ok _, s) => .ok (true, s)
      | (.error f, s) => if f.isReported then .ok (false, s) else .error f

end System

namespace Machine

/-- What is said of what is found at a path ends only in a fault that the store reports. -/
theorem isReported_of_find? {m : Machine} {p : Path} {β : Type} {g : Option Kind -> β}
    {f : FileFault} (h : (m.find? p).map g = .error f) : f.isReported = true := by
  unfold find? at h
  split at h <;> cases h
  rfl

/-- If something is said of what is found at a path but not of nothing, the path can be
located. -/
theorem exists_locate_of_find? {m : Machine} {p : Path} {g : Option Kind -> Bool}
    (hnone : g none = false) (h : (m.find? p).map g = .ok true) :
    ∃ place, m.locate p = .ok place ∧ g (m.store.kind? place) = true := by
  unfold find? at h
  split at h
  next place hplace => exact ⟨place, hplace, Except.ok.inj h⟩
  · cases h
  · have hfound : g none = true := Except.ok.inj h
    rw [hnone] at hfound
    cases hfound

/-- What there is, is read unless the store reports a fault. -/
theorem isReported_of_readBytes {m : Machine} {p : Path} {g : Option Kind -> Bool}
    {f : FileFault} (hnone : g none = false) (hfound : (m.find? p).map g = .ok true)
    (h : m.readBytes p = .error f) : f.isReported = true := by
  rcases exists_locate_of_find? hnone hfound with ⟨place, hplace, _⟩
  simp only [readBytes, hplace, bind, Except.bind] at h
  split at h <;> cases h
  rfl

/-- A path that can be located leads along its names. -/
theorem walk_of_locate {m : Machine} {p : Path} {place : Place} (h : m.locate p = .ok place) :
    m.store.walk (m.startOf p) p.names = .ok place := by
  unfold locate at h
  cases hcheck : checkPath p with
  | error g =>
      rw [hcheck] at h
      cases h
  | ok u =>
      rw [hcheck] at h
      exact h

/-- What can be located has a place. -/
theorem resolve_of_locate {m : Machine} {p : Path} {place : Place} (h : m.locate p = .ok place) :
    m.resolve p = .ok (p.names.foldl step (m.startOf p)) := by
  unfold resolve
  split
  next hnull =>
    simp only [locate, checkPath, hnull, if_true, bind, Except.bind] at h
    cases h
  · rfl

/-- The answers of a machine. -/
def answers (m : Machine) : Answers where
  isPresent := m.isPresent
  readBytes := m.readBytes
  homeOf := m.homeOf
  isFile := m.isFile
  resolve := m.resolve
  reported_isPresent := isReported_of_find?
  reported_readBytes := isReported_of_readBytes rfl
  reported_isFile := isReported_of_find?
  reported_resolve := by
    intro p f hfile h
    rcases exists_locate_of_find? rfl hfile with ⟨place, hplace, _⟩
    rw [resolve_of_locate hplace] at h
    cases h

/-- The file in which the document is remembered. -/
def memoryPath (m : Machine) : Path :=
  m.homePath.file ".mdcompose.cfg"

/-- The place of a file to write is missed only by faults that the store reports, unless the path
holds a null character. -/
theorem isReported_of_placeToWrite {m : Machine} {p : Path} {f : FileFault}
    (hnull : '\x00' ∉ p.text) (h : m.placeToWrite p = .error f) : f.isReported = true := by
  have hfree : p.text.contains '\x00' = false := by
    rw [Bool.eq_false_iff, ne_eq, List.contains_iff_mem]
    exact hnull
  unfold placeToWrite checkPath at h
  simp only [hfree, Bool.false_eq_true, if_false, bind, Except.bind] at h
  split at h
  next hlong =>
    split at hlong <;> cases hlong
    cases h
    rfl
  · split at h
    · cases h
      rfl
    · split at h
      next hwalk =>
        cases h
        exact Store.isReported_of_walk hwalk
      · split at h
        · split at h
          · cases h
            rfl
          · split at h <;> cases h
            rfl
        · cases h
          rfl

/-- The machines as a system of files. -/
def system : System Machine where
  answers := answers
  memoryPath m := .ok m.memoryPath
  write := write
  reported_readFile := isReported_of_readBytes rfl
  reported_write := by
    intro m p bytes f hnull h
    unfold write at h
    split at h
    · cases h
    next hplace =>
      cases h
      exact isReported_of_placeToWrite hnull hplace

/-- The document that a file remembers. -/
def remembered (m : Machine) (memory : Path) : Except FileFault (Option Path) :=
  m.answers.remembered memory

/-- Remember a document; says whether that worked. -/
def remember (m : Machine) (document memory : Path) : Except FileFault (Bool × Machine) :=
  system.remember document memory m

end Machine
end Files
end Folio
