import Folio.Command.Start
import Folio.Proofs.Files.Remembered

/-!
# Starting with a document

A start that names a document asks the system of files for the home of a user, for the file,
for its bytes and for the place of the file in which the document is remembered, and then writes
that file. The development accounts for every answer. Either the document is refused with a
message and nothing is changed, or a window is opened on its text, or one of few faults ends the
start without either.
-/

namespace Folio
namespace Command

open Text Files

/-!
## Naming a document
-/

/-- Flags, two dashes and a path. -/
def argumentsFor (leftToRight verbose : Bool) (name : List Char) : List (List Char) :=
  (if leftToRight then ["--ltr".toList] else []) ++
    (if verbose then ["--verbose".toList] else []) ++ ["--".toList, name]

/-- After two dashes any text is a path. -/
theorem readArguments_argumentsFor (leftToRight verbose : Bool) (name : List Char) :
    readArguments (argumentsFor leftToRight verbose name) =
      .request ⟨some name, leftToRight, verbose⟩ := by
  cases leftToRight <;> cases verbose <;> rfl

/-!
## What a start comes to
-/

variable {σ : Type}

/-- A document is refused with a message. -/
inductive Refused (sys : System σ) (s : σ) (p : Path) : List Char -> Prop where
  | noFile (hfile : (sys.answers s).isFile p = .ok false) : Refused sys s p (noFileText p)
  | unreadable {f : FileFault} (hfile : (sys.answers s).isFile p = .ok true)
      (hread : (sys.answers s).readText p = .error f) : Refused sys s p (readFaultText p f)

/-- There is a file with a text. -/
def HoldsText (sys : System σ) (s : σ) (p : Path) (text : List Char) : Prop :=
  (sys.answers s).isFile p = .ok true ∧
    ∃ bytes t, (sys.answers s).readBytes p = .ok bytes ∧ decodeUtf8 bytes = .ok t ∧
      text = unifyLineEnds t

/-- A document is opened on a text and remembered, if that works, which leads to a state. -/
def Opened (sys : System σ) (s : σ) (p : Path) (text : List Char) (s' : σ) : Prop :=
  HoldsText sys s p text ∧
    ∃ memory saved, sys.memoryPath s = .ok memory ∧ sys.remember p memory s = .ok (saved, s')

/-- A fault that keeps a path from being refused or opened: the question whether there is a file
is not answered, or the file in which the document is remembered has no place, or a place with a
null character. -/
inductive Stops (sys : System σ) (s : σ) (p : Path) : FileFault -> Prop where
  | noAnswer {f : FileFault} (hfile : (sys.answers s).isFile p = .error f) : Stops sys s p f
  | noMemory {text : List Char} {f : FileFault} (htext : HoldsText sys s p text)
      (hmemory : sys.memoryPath s = .error f) : Stops sys s p f
  | nullMemory {text : List Char} {memory : Path} {place : Place} {f : FileFault}
      (htext : HoldsText sys s p text) (hmemory : sys.memoryPath s = .ok memory)
      (hnull : '\x00' ∈ memory.text) (hplace : (sys.answers s).resolve p = .ok place)
      (hwrite : (sys.write memory (utf8Bytes ((Path.ofNames place).text ++ ['\n'])) s).1 =
        .error f)
      (hf : f.isReported = false) : Stops sys s p f

/-- A fault that ends a start with a name: the home of a user cannot be told, or the path that
the name stands for is neither refused nor opened. -/
inductive Raises (sys : System σ) (s : σ) (name : List Char) : FileFault -> Prop where
  | noHome {user : List Char} {rest : List (List Char)} {f : FileFault}
      (hroot : (Path.ofText name).root = .relative)
      (hnames : (Path.ofText name).names = ('~' :: user) :: rest)
      (hhome : (sys.answers s).homeOf user = .error f) : Raises sys s name f
  | stops {p : Path} {f : FileFault}
      (hexpand : expandWith (sys.answers s).homeOf (.ofText name) = .ok p)
      (hstops : Stops sys s p f) : Raises sys s name f

/-!
## Remembering
-/

variable {sys : System σ} {s s' : σ} {p memory : Path} {text name : List Char} {f : FileFault}

/-- Remembering an existing file ends only in a fault of the write. -/
theorem remember_eq_error_iff (hfile : (sys.answers s).isFile p = .ok true) :
    sys.remember p memory s = .error f ↔
      ∃ place, (sys.answers s).resolve p = .ok place ∧
        (sys.write memory (utf8Bytes ((Path.ofNames place).text ++ ['\n'])) s).1 = .error f ∧
        f.isReported = false := by
  unfold System.remember
  cases hplace : (sys.answers s).resolve p with
  | error g =>
      have hreported : g.isReported = true := (sys.answers s).reported_resolve hfile hplace
      simp [hreported]
  | ok place =>
      simp only [Except.ok.injEq, exists_eq_left']
      split
      next u after hwrite => simp [hwrite]
      next g after hwrite =>
        rw [hwrite, Except.error.injEq]
        constructor
        · intro h
          split at h
          · cases h
          next hreported =>
            cases h
            exact ⟨rfl, Bool.eq_false_iff.2 hreported⟩
        · rintro ⟨rfl, hreported⟩
          rw [if_neg (Bool.eq_false_iff.1 hreported)]

/-- Remembering an existing file comes to something, unless null characters are in the way. -/
theorem exists_remember (hfile : (sys.answers s).isFile p = .ok true)
    (hnull : '\x00' ∉ memory.text) : exists saved, sys.remember p memory s = .ok saved := by
  cases h : sys.remember p memory s with
  | ok saved => exact ⟨saved, rfl⟩
  | error f =>
      rcases (remember_eq_error_iff hfile).1 h with ⟨place, _, hwrite, hf⟩
      rw [sys.reported_write hnull hwrite] at hf
      cases hf

/-!
## Opening
-/

theorem readText_eq_ok_iff {a : Answers} :
    a.readText p = .ok text ↔
      ∃ bytes t, a.readBytes p = .ok bytes ∧ decodeUtf8 bytes = .ok t ∧ text = unifyLineEnds t := by
  unfold Answers.readText
  rw [bind_eq_ok_iff]
  constructor
  · rintro ⟨bytes, hbytes, htext⟩
    rcases textOf_eq_ok_iff.1 htext with ⟨t, hdecode, htext⟩
    exact ⟨bytes, t, hbytes, hdecode, htext⟩
  · rintro ⟨bytes, t, hbytes, hdecode, htext⟩
    exact ⟨bytes, hbytes, textOf_eq_ok_iff.2 ⟨t, hdecode, htext⟩⟩

theorem holdsText_iff :
    HoldsText sys s p text ↔
      (sys.answers s).isFile p = .ok true ∧ (sys.answers s).readText p = .ok text := by
  rw [HoldsText, readText_eq_ok_iff]

/-- Whatever keeps a file from being read is said to the user. -/
theorem isUnreadable_of_readText (hfile : (sys.answers s).isFile p = .ok true)
    (h : (sys.answers s).readText p = .error f) : f.isUnreadable = true := by
  rcases bind_eq_error_iff.1 h with hread | ⟨bytes, _, htext⟩
  · have hreported : f.isReported = true := sys.reported_readFile hfile hread
    cases f <;> first | rfl | cases hreported
  · rcases textOf_eq_error_iff.1 htext with ⟨fault, _, rfl⟩
    rfl

variable {d : Direction} {outcome : Outcome}

theorem openDocument_of_isFile_eq_error (hfile : (sys.answers s).isFile p = .error f) :
    openDocument sys p d s = .error f := by
  simp only [openDocument, hfile, bind, Except.bind]

theorem openDocument_of_isFile_eq_false (hfile : (sys.answers s).isFile p = .ok false) :
    openDocument sys p d s = .ok (refuse (noFileText p), s) := by
  simp only [openDocument, hfile, bind, Except.bind, Bool.not_false, if_true]
  rfl

theorem openDocument_of_readText_eq_error (hfile : (sys.answers s).isFile p = .ok true)
    (hread : (sys.answers s).readText p = .error f) :
    openDocument sys p d s = .ok (refuse (readFaultText p f), s) := by
  simp only [openDocument, hfile, hread, isUnreadable_of_readText hfile hread, bind, Except.bind,
    Bool.not_true, Bool.false_eq_true, if_false, if_true]
  rfl

theorem openDocument_of_holdsText (htext : HoldsText sys s p text) :
    openDocument sys p d s = do
      let memory <- sys.memoryPath s
      let saved <- sys.remember p memory s
      return (.opened ⟨text, some p, d⟩, saved.2) := by
  rcases holdsText_iff.1 htext with ⟨hfile, hread⟩
  simp only [openDocument, hfile, hread, bind, Except.bind, Bool.not_true, Bool.false_eq_true,
    if_false]

theorem refused_or_holdsText (sys : System σ) (s : σ) (p : Path) :
    (∃ f, (sys.answers s).isFile p = .error f) ∨
    (sys.answers s).isFile p = .ok false ∨
    (∃ f, (sys.answers s).isFile p = .ok true ∧ (sys.answers s).readText p = .error f) ∨
    (∃ text, HoldsText sys s p text) := by
  cases hfile : (sys.answers s).isFile p with
  | error f => exact .inl ⟨f, rfl⟩
  | ok isThere =>
      cases isThere with
      | false => exact .inr (.inl rfl)
      | true =>
          cases hread : (sys.answers s).readText p with
          | error f => exact .inr (.inr (.inl ⟨f, rfl, rfl⟩))
          | ok text => exact .inr (.inr (.inr ⟨text, holdsText_iff.2 ⟨hfile, hread⟩⟩))

theorem openDocument_eq_ok_iff :
    openDocument sys p d s = .ok (outcome, s') ↔
      (∃ message, Refused sys s p message ∧ outcome = refuse message ∧ s' = s) ∨
      (∃ text, Opened sys s p text s' ∧ outcome = .opened ⟨text, some p, d⟩) := by
  constructor
  · intro h
    rcases refused_or_holdsText sys s p with ⟨f, hfile⟩ | hfile | ⟨f, hfile, hread⟩ | ⟨text, htext⟩
    · rw [openDocument_of_isFile_eq_error hfile] at h
      cases h
    · rw [openDocument_of_isFile_eq_false hfile] at h
      cases h
      exact .inl ⟨_, .noFile hfile, rfl, rfl⟩
    · rw [openDocument_of_readText_eq_error hfile hread] at h
      cases h
      exact .inl ⟨_, .unreadable hfile hread, rfl, rfl⟩
    · rw [openDocument_of_holdsText htext] at h
      rcases bind_eq_ok_iff.1 h with ⟨memory, hmemory, h⟩
      rcases bind_eq_ok_iff.1 h with ⟨saved, hsaved, h⟩
      cases h
      exact .inr ⟨text, ⟨htext, memory, saved.1, hmemory, hsaved⟩, rfl⟩
  · rintro (⟨message, hrefused, rfl, rfl⟩ | ⟨text, ⟨htext, memory, saved, hmemory, hsaved⟩, rfl⟩)
    · cases hrefused with
      | noFile hfile => exact openDocument_of_isFile_eq_false hfile
      | unreadable hfile hread => exact openDocument_of_readText_eq_error hfile hread
    · rw [openDocument_of_holdsText htext]
      exact bind_eq_ok_iff.2 ⟨memory, hmemory, bind_eq_ok_iff.2 ⟨_, hsaved, rfl⟩⟩

theorem openDocument_eq_error_iff :
    openDocument sys p d s = .error f ↔ Stops sys s p f := by
  constructor
  · intro h
    rcases refused_or_holdsText sys s p with ⟨g, hfile⟩ | hfile | ⟨g, hfile, hread⟩ | ⟨text, htext⟩
    · rw [openDocument_of_isFile_eq_error hfile] at h
      cases h
      exact .noAnswer hfile
    · rw [openDocument_of_isFile_eq_false hfile] at h
      cases h
    · rw [openDocument_of_readText_eq_error hfile hread] at h
      cases h
    · rw [openDocument_of_holdsText htext] at h
      rcases bind_eq_error_iff.1 h with hmemory | ⟨memory, hmemory, h⟩
      · exact .noMemory htext hmemory
      rcases bind_eq_error_iff.1 h with hsaved | ⟨saved, _, h⟩
      · rcases (remember_eq_error_iff htext.1).1 hsaved with ⟨place, hplace, hwrite, hf⟩
        -- Every other fault of a write is reported, and then remembering says that it failed.
        have hnull : '\x00' ∈ memory.text := Decidable.byContradiction fun hfree =>
          Bool.eq_false_iff.1 hf (sys.reported_write hfree hwrite)
        exact .nullMemory htext hmemory hnull hplace hwrite hf
      · cases h
  · intro h
    cases h with
    | noAnswer hfile => exact openDocument_of_isFile_eq_error hfile
    | noMemory htext hmemory =>
        rw [openDocument_of_holdsText htext]
        exact bind_eq_error_iff.2 (.inl hmemory)
    | nullMemory htext hmemory _ hplace hwrite hf =>
        rw [openDocument_of_holdsText htext]
        refine bind_eq_error_iff.2 (.inr ⟨_, hmemory, bind_eq_error_iff.2 (.inl ?_)⟩)
        exact (remember_eq_error_iff htext.1).2 ⟨_, hplace, hwrite, hf⟩

/-!
## Starting
-/

variable {arguments : List (List Char)} {r : Request}

/-- A start that names a document opens the path that the name stands for. -/
theorem startIn_eq (hread : readArguments arguments = .request r) (hpath : r.path = some name) :
    startIn sys arguments s =
      expandWith (sys.answers s).homeOf (.ofText name) >>= fun p =>
        openDocument sys p r.direction s := by
  simp only [startIn, hread, startWith, documentFor, hpath]
  cases expandWith (sys.answers s).homeOf (.ofText name) <;> rfl

/-- A start that names a document ends without a fault exactly if the document is refused with a
message, which changes nothing, or is opened on the text of the file. It ends in a fault exactly
if the home of a user cannot be told, the question whether there is a file is not answered, or
the file in which the document is remembered has no place that can be written to at all. -/
theorem startIn_iff (hread : readArguments arguments = .request r) (hpath : r.path = some name) :
    (∀ outcome s', startIn sys arguments s = .ok (outcome, s') ↔
      ∃ p, expandWith (sys.answers s).homeOf (.ofText name) = .ok p ∧
        ((∃ message, Refused sys s p message ∧ outcome = .ended ⟨2, [], message⟩ ∧ s' = s) ∨
          (∃ text, Opened sys s p text s' ∧
            outcome = .opened ⟨text, some p, r.direction⟩))) ∧
    (∀ f, startIn sys arguments s = .error f ↔ Raises sys s name f) := by
  constructor
  · intro outcome s'
    rw [startIn_eq hread hpath, bind_eq_ok_iff]
    simp only [openDocument_eq_ok_iff, refuse]
  · intro f
    rw [startIn_eq hread hpath, bind_eq_error_iff, expandWith_eq_error_iff]
    simp only [openDocument_eq_error_iff]
    constructor
    · rintro (⟨user, rest, hroot, hnames, hhome⟩ | ⟨p, hexpand, hstops⟩)
      · exact .noHome hroot hnames hhome
      · exact .stops hexpand hstops
    · intro h
      cases h with
      | noHome hroot hnames hhome => exact .inl ⟨_, _, hroot, hnames, hhome⟩
      | stops hexpand hstops => exact .inr ⟨_, hexpand, hstops⟩

/-- A machine at the root with one file, on which no other user has a home. -/
def holding (place : Place) (bytes : List Nat) : Machine where
  store := ⟨[(place, bytes)], [["home".toList]]⟩
  here := []
  home := "/home".toList
  homes := []
  scriptSetting := []
  scriptFolders := []

theorem startIn_holding :
    startIn Machine.system (argumentsFor true false "b".toList) (holding ["a".toList] []) =
      .ok (.ended ⟨2, [], "File does not exist: b\n".toList⟩, holding ["a".toList] []) ∧
    (startIn Machine.system (argumentsFor true false "a".toList)
        (holding ["a".toList] (utf8Bytes "x\r\ny".toList)) =
      .ok (.opened ⟨"x\ny".toList, some ⟨.relative, ["a".toList]⟩, .ltr⟩,
        (Machine.write (holding [] []).memoryPath (utf8Bytes "/a\n".toList)
          (holding ["a".toList] (utf8Bytes "x\r\ny".toList))).2)) ∧
    startIn Machine.system (argumentsFor true false "~b".toList) (holding ["a".toList] []) =
      .error .noHome := by
  have hread := readArguments_argumentsFor true false
  refine ⟨?_, ?_, ?_⟩
  · refine ((startIn_iff (hread _) rfl).1 _ _).2 ⟨⟨.relative, ["b".toList]⟩, by rfl, .inl ?_⟩
    exact ⟨_, .noFile (by rfl), by rfl, rfl⟩
  · refine ((startIn_iff (hread _) rfl).1 _ _).2
      ⟨⟨.relative, ["a".toList]⟩, by rfl, .inr ⟨_, ⟨⟨by rfl, ?_⟩, ?_⟩, rfl⟩⟩
    · exact ⟨_, "x\r\ny".toList, by rfl, by rfl, by rfl⟩
    · exact ⟨(holding [] []).memoryPath, true, by rfl, by rfl⟩
  · exact ((startIn_iff (hread _) rfl).2 _).2
      (@Raises.noHome _ _ _ _ "b".toList [] _ (by rfl) (by rfl) (by rfl))

/-- Neither the home of an unknown user nor a name that is too long is told to the user. -/
theorem start_holding :
    start (holding ["a".toList] []) ["~b".toList] = .error .noHome ∧
    start (holding ["a".toList] []) [List.replicate 256 'a'] = .error .nameTooLong ∧
    ¬ ∀ m name, ∃ outcome, start m [name] = .ok outcome := by
  have hhome : start (holding ["a".toList] []) ["~b".toList] = .error .noHome := by rfl
  refine ⟨hhome, by set_option maxRecDepth 10000 in rfl, fun h => ?_⟩
  rcases h (holding ["a".toList] []) "~b".toList with ⟨outcome, houtcome⟩
  rw [hhome] at houtcome
  cases houtcome

end Command
end Folio
