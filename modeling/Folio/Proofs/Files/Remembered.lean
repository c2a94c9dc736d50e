import Folio.Files.Memory

/-!
# Looking up the remembered document

Looking up the remembered document asks several questions, and each may end in a fault. What a
store reports counts as nothing. Two kinds of faults are left over: bytes that are no text, and a
name with a tilde for a user whose home is not known. The development says for any system exactly
when they end the lookup, and which documents it finds.
-/

namespace Folio
namespace Files

open Text

theorem bind_eq_ok_iff {β γ ε : Type} {x : Except ε β} {f : β -> Except ε γ} {c : γ} :
    x >>= f = .ok c ↔ ∃ b, x = .ok b ∧ f b = .ok c := by
  cases x with
  | error e => simp [bind, Except.bind]
  | ok b => simp [bind, Except.bind]

theorem bind_eq_error_iff {β γ ε : Type} {x : Except ε β} {f : β -> Except ε γ} {e : ε} :
    x >>= f = .error e ↔ x = .error e ∨ ∃ b, x = .ok b ∧ f b = .error e := by
  cases x with
  | error e => simp [bind, Except.bind]
  | ok b => simp [bind, Except.bind]

/-!
## What is caught
-/

theorem orNothing_eq_error_iff {β : Type} {x : Except FileFault (Option β)} {f : FileFault} :
    orNothing x = .error f ↔ x = .error f ∧ f.isReported = false := by
  cases x with
  | ok found => simp [orNothing]
  | error g =>
      cases hg : g.isReported with
      | true =>
          simp only [orNothing, hg, if_true, Except.error.injEq, reduceCtorEq, false_iff, not_and]
          rintro rfl
          simp [hg]
      | false =>
          simp only [orNothing, hg, Bool.false_eq_true, if_false, Except.error.injEq]
          constructor
          · rintro rfl
            exact ⟨rfl, hg⟩
          · rintro ⟨rfl, _⟩
            rfl

theorem orNothing_eq_some_iff {β : Type} {x : Except FileFault (Option β)} {b : β} :
    orNothing x = .ok (some b) ↔ x = .ok (some b) := by
  cases x with
  | ok found => rfl
  | error g => cases hg : g.isReported <;> simp [orNothing, hg]

theorem textOf_eq_ok_iff {bytes : List Nat} {s : List Char} :
    textOf bytes = .ok s ↔ ∃ t, decodeUtf8 bytes = .ok t ∧ s = unifyLineEnds t := by
  unfold textOf
  cases decodeUtf8 bytes with
  | ok t => simp [eq_comm]
  | error fault => simp

theorem textOf_eq_error_iff {bytes : List Nat} {f : FileFault} :
    textOf bytes = .error f ↔ ∃ fault, decodeUtf8 bytes = .error fault ∧ f = .noText fault := by
  unfold textOf
  cases decodeUtf8 bytes with
  | ok t => simp
  | error fault => simp [eq_comm]

/-- The home of a user is asked for only for a first name with a tilde. -/
theorem expandWith_eq_error_iff {homeOf : List Char -> Except FileFault (List Char)} {p : Path}
    {f : FileFault} :
    expandWith homeOf p = .error f ↔
      ∃ user rest, p.root = .relative ∧ p.names = ('~' :: user) :: rest ∧
        homeOf user = .error f := by
  unfold expandWith
  split
  next user rest hroot hnames =>
    rw [hroot, hnames]
    cases hhome : homeOf user with
    | ok home => simp [Except.map, hhome]
    | error g => simp [Except.map, hhome]
  next hother =>
    constructor
    · intro h
      cases h
    · rintro ⟨user, rest, hroot, hnames, _⟩
      exact absurd hnames (hother user rest hroot)

namespace Answers

/-!
## What a lookup finds, and what ends it
-/

/-- A file is present, and this is its text without the blanks around it. -/
def Holds (a : Answers) (memory : Path) (s : List Char) : Prop :=
  a.isPresent memory = .ok true ∧
    ∃ bytes t, a.readBytes memory = .ok bytes ∧ decodeUtf8 bytes = .ok t ∧
      s = trim (unifyLineEnds t)

/-- A text names an existing file, and this is its place. -/
def Names (a : Answers) (s : List Char) (place : Place) : Prop :=
  s ≠ [] ∧ ∃ candidate, expandWith a.homeOf (.ofText s) = .ok candidate ∧
    a.isFile candidate = .ok true ∧ a.resolve candidate = .ok place

/-- A fault that ends the lookup. -/
inductive Ends (a : Answers) (memory : Path) : FileFault -> Prop where
  /-- The file is present and can be read, but its bytes are no text. -/
  | noText {bytes : List Nat} {fault : Utf8Fault}
      (hpresent : a.isPresent memory = .ok true) (hread : a.readBytes memory = .ok bytes)
      (hdecode : decodeUtf8 bytes = .error fault) : Ends a memory (.noText fault)
  /-- The text of the file starts with a tilde for a user whose home cannot be told. -/
  | noHome {s user : List Char} {rest : List (List Char)} {f : FileFault}
      (hholds : a.Holds memory s) (hroot : (Path.ofText s).root = .relative)
      (hnames : (Path.ofText s).names = ('~' :: user) :: rest)
      (hhome : a.homeOf user = .error f) (hf : f.isReported = false) : Ends a memory f

variable {a : Answers} {memory : Path} {s : List Char} {f : FileFault}

/-- Asking for the file at a path ends only in faults that the store reports. -/
theorem isReported_of_fileAt {p : Path} (h : a.fileAt p = .error f) : f.isReported = true := by
  rcases bind_eq_error_iff.1 h with hfile | ⟨found, hfound, h⟩
  · exact a.reported_isFile hfile
  · cases found with
    | false => cases h
    | true =>
        rcases bind_eq_error_iff.1 h with hresolve | ⟨place, _, h⟩
        · exact a.reported_resolve hfound hresolve
        · cases h

theorem fileAt_eq_some_iff {p found : Path} :
    a.fileAt p = .ok (some found) ↔
      ∃ place, a.isFile p = .ok true ∧ a.resolve p = .ok place ∧ found = .ofNames place := by
  constructor
  · intro h
    rcases bind_eq_ok_iff.1 h with ⟨isThere, hfile, h⟩
    cases isThere with
    | false => cases h
    | true =>
        rcases bind_eq_ok_iff.1 h with ⟨place, hplace, h⟩
        cases h
        exact ⟨place, hfile, hplace, rfl⟩
  · rintro ⟨place, hfile, hplace, rfl⟩
    exact bind_eq_ok_iff.2 ⟨true, hfile, bind_eq_ok_iff.2 ⟨place, hplace, rfl⟩⟩

/-- Of the faults that no store reports, only an unknown home ends the search for the document
that a text names. -/
theorem namedDocument_eq_error_iff (hf : f.isReported = false) :
    a.namedDocument s = .error f ↔
      ∃ user rest, (Path.ofText s).root = .relative ∧
        (Path.ofText s).names = ('~' :: user) :: rest ∧ a.homeOf user = .error f := by
  rw [← expandWith_eq_error_iff]
  unfold namedDocument
  split
  next hs =>
    -- the empty text is a path without names
    rw [List.isEmpty_iff.1 hs]
    constructor <;> intro h <;> cases h
  next hs =>
    rw [bind_eq_error_iff]
    constructor
    · rintro (hexpand | ⟨candidate, _, hfile⟩)
      · exact hexpand
      · rw [isReported_of_fileAt hfile] at hf
        cases hf
    · exact Or.inl

theorem namedDocument_eq_some_iff {found : Path} :
    a.namedDocument s = .ok (some found) ↔ ∃ place, a.Names s place ∧ found = .ofNames place := by
  unfold namedDocument
  split
  next hs =>
    constructor
    · intro h
      cases h
    · rintro ⟨place, ⟨hne, _⟩, _⟩
      exact absurd (List.isEmpty_iff.1 hs) hne
  next hs =>
    have hne : s ≠ [] := fun h => hs (List.isEmpty_iff.2 h)
    rw [bind_eq_ok_iff]
    constructor
    · rintro ⟨candidate, hexpand, h⟩
      rcases fileAt_eq_some_iff.1 h with ⟨place, hfile, hplace, hfound⟩
      exact ⟨place, ⟨hne, candidate, hexpand, hfile, hplace⟩, hfound⟩
    · rintro ⟨place, ⟨_, candidate, hexpand, hfile, hplace⟩, hfound⟩
      exact ⟨candidate, hexpand, fileAt_eq_some_iff.2 ⟨place, hfile, hplace, hfound⟩⟩

theorem remembered_eq_some_iff {found : Path} :
    a.remembered memory = .ok (some found) ↔
      ∃ s place, a.Holds memory s ∧ a.Names s place ∧ found = .ofNames place := by
  unfold remembered
  rw [orNothing_eq_some_iff, bind_eq_ok_iff]
  constructor
  · rintro ⟨isThere, hpresent, h⟩
    cases isThere with
    | false => cases h
    | true =>
        rcases bind_eq_ok_iff.1 h with ⟨bytes, hread, h⟩
        rcases bind_eq_ok_iff.1 h with ⟨t, htext, h⟩
        rcases textOf_eq_ok_iff.1 htext with ⟨u, hdecode, rfl⟩
        rcases namedDocument_eq_some_iff.1 h with ⟨place, hnames, hfound⟩
        exact ⟨_, place, ⟨hpresent, bytes, u, hread, hdecode, rfl⟩, hnames, hfound⟩
  · rintro ⟨s, place, ⟨hpresent, bytes, t, hread, hdecode, rfl⟩, hnames, hfound⟩
    refine ⟨true, hpresent, ?_⟩
    refine bind_eq_ok_iff.2 ⟨bytes, hread, ?_⟩
    refine bind_eq_ok_iff.2 ⟨unifyLineEnds t, textOf_eq_ok_iff.2 ⟨t, hdecode, rfl⟩, ?_⟩
    exact namedDocument_eq_some_iff.2 ⟨place, hnames, hfound⟩

/-- A fault that ends the lookup is one of the two that no store reports. -/
theorem ends_of_remembered (h : a.remembered memory = .error f) : a.Ends memory f := by
  unfold remembered at h
  rcases orNothing_eq_error_iff.1 h with ⟨h, hf⟩
  rcases bind_eq_error_iff.1 h with hfault | ⟨isThere, hpresent, h⟩
  · rw [a.reported_isPresent hfault] at hf
    cases hf
  cases isThere with
  | false => cases h
  | true =>
      rcases bind_eq_error_iff.1 h with hfault | ⟨bytes, hread, h⟩
      · rw [a.reported_readBytes hpresent hfault] at hf
        cases hf
      rcases bind_eq_error_iff.1 h with hfault | ⟨t, htext, h⟩
      · rcases textOf_eq_error_iff.1 hfault with ⟨fault, hdecode, rfl⟩
        exact .noText hpresent hread hdecode
      rcases textOf_eq_ok_iff.1 htext with ⟨u, hdecode, rfl⟩
      rcases (namedDocument_eq_error_iff hf).1 h with ⟨user, rest, hroot, hnames, hhome⟩
      exact .noHome ⟨hpresent, bytes, u, hread, hdecode, rfl⟩ hroot hnames hhome hf

theorem Ends.remembered (h : a.Ends memory f) : a.remembered memory = .error f := by
  unfold Answers.remembered
  cases h with
  | noText hpresent hread hdecode =>
      refine orNothing_eq_error_iff.2 ⟨?_, rfl⟩
      refine bind_eq_error_iff.2 (Or.inr ⟨true, hpresent, ?_⟩)
      refine bind_eq_error_iff.2 (Or.inr ⟨_, hread, ?_⟩)
      exact bind_eq_error_iff.2 (Or.inl (textOf_eq_error_iff.2 ⟨_, hdecode, rfl⟩))
  | noHome hholds hroot hnames hhome hf =>
      rcases hholds with ⟨hpresent, bytes, t, hread, hdecode, rfl⟩
      refine orNothing_eq_error_iff.2 ⟨?_, hf⟩
      refine bind_eq_error_iff.2 (Or.inr ⟨true, hpresent, ?_⟩)
      refine bind_eq_error_iff.2 (Or.inr ⟨bytes, hread, ?_⟩)
      refine bind_eq_error_iff.2 (Or.inr ⟨_, textOf_eq_ok_iff.2 ⟨t, hdecode, rfl⟩, ?_⟩)
      exact (namedDocument_eq_error_iff hf).2 ⟨_, _, hroot, hnames, hhome⟩

/-- A document is found exactly if the file holds the name of an existing file, and it is the
place of that file. The lookup ends in a fault exactly if the bytes of the file are no text, or
its text starts with a tilde for a user whose home cannot be told. -/
theorem remembered_iff (a : Answers) (memory : Path) :
    (∀ found, a.remembered memory = .ok (some found) ↔
      ∃ s place, a.Holds memory s ∧ a.Names s place ∧ found = .ofNames place) ∧
    (∀ f, a.remembered memory = .error f ↔ a.Ends memory f) :=
  ⟨fun _ => remembered_eq_some_iff, fun _ => ⟨ends_of_remembered, Ends.remembered⟩⟩

end Answers

/-!
## The lookup of a machine
-/

theorem Store.eq_of_walk {s : Store} {names : List (List Char)} {start place : Place}
    (h : s.walk start names = .ok place) : place = names.foldl Machine.step start := by
  induction names generalizing start with
  | nil =>
      unfold Store.walk at h
      split at h <;> cases h
      rfl
  | cons name rest ih =>
      unfold Store.walk at h
      split at h
      · cases h
      · cases h
      · split at h
        · cases h
        · rw [List.foldl_cons]
          split at h
          next hback => rw [ih h, Machine.step, if_pos hback]
          next hback => rw [ih h, Machine.step, if_neg hback]

namespace Machine

/-- A document that a machine finds is a file of its store. -/
theorem kind?_of_remembered {m : Machine} {memory found : Path}
    (h : m.remembered memory = .ok (some found)) :
    ∃ place, found = .ofNames place ∧ m.store.kind? place = some .file := by
  rcases Answers.remembered_eq_some_iff.1 h with
    ⟨s, place, _, ⟨_, candidate, _, hfile, hplace⟩, hfound⟩
  refine ⟨place, hfound, ?_⟩
  rcases exists_locate_of_find? rfl hfile with ⟨located, hlocate, hkind⟩
  have hresolve : place = candidate.names.foldl step (m.startOf candidate) :=
    Except.ok.inj (hplace.symm.trans (resolve_of_locate hlocate))
  rw [hresolve, ← Store.eq_of_walk (walk_of_locate hlocate)]
  exact beq_iff_eq.1 hkind

/-- A machine on which the remembering file has some bytes, and no other user has a home. -/
def keeping (bytes : List Nat) : Machine where
  store := ⟨[(["home".toList, ".mdcompose.cfg".toList], bytes)], []⟩
  here := []
  home := "/home".toList
  homes := []
  scriptSetting := []
  scriptFolders := []

/-- Neither a byte that is no text nor the name of a user without a home counts as nothing. -/
theorem remembered_keeping :
    (keeping [0xFF]).remembered (keeping [0xFF]).memoryPath =
      .error (.noText ⟨0, 1, 0xFF, .start⟩) ∧
    (keeping (utf8Bytes "~a".toList)).remembered (keeping []).memoryPath = .error .noHome ∧
    ¬ ∀ bytes, ∃ found, (keeping bytes).remembered (keeping bytes).memoryPath = .ok found := by
  have hbyte : (keeping [0xFF]).remembered (keeping [0xFF]).memoryPath =
      .error (.noText ⟨0, 1, 0xFF, .start⟩) := by rfl
  refine ⟨hbyte, by rfl, fun h => ?_⟩
  rcases h [0xFF] with ⟨found, hfound⟩
  rw [hbyte] at hfound
  cases hfound

end Machine
end Files
end Folio
