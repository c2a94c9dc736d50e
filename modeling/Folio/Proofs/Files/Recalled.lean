import Folio.Proofs.Files.Stored
import Folio.Proofs.Text.Encoded

/-!
# What is remembered of a document

The place of a document is remembered as the text of its path, with a line end behind it. What is
read back is that text in one form of line ends and without the blanks around it. The document is
found again exactly if its path holds no carriage return, does not end in a blank and is not too
long.
-/

namespace Folio
namespace Files

open Text

/-- A path comes back from a file in which it is remembered: reading the file does not change it,
and the system can be asked about it. -/
structure Survives (text : List Char) : Prop where
  /-- No carriage return is read as a line end. -/
  kept : '\r' ∉ text
  /-- Nothing is trimmed. -/
  ended : ∀ c ∈ text.getLast?, isBlank c = false
  short : (utf8Bytes text).length < pathLimit

theorem survives_iff {text : List Char} :
    Survives text ↔ '\r' ∉ text ∧ text.getLast?.all (fun c => !isBlank c) = true ∧
      (utf8Bytes text).length < pathLimit := by
  have hended : text.getLast?.all (fun c => !isBlank c) = true ↔
      ∀ c ∈ text.getLast?, isBlank c = false := by
    cases text.getLast? with
    | none => simp
    | some c => simp
  rw [hended]
  exact ⟨fun h => ⟨h.kept, h.ended, h.short⟩, fun h => ⟨h.1, h.2.1, h.2.2⟩⟩

instance (text : List Char) : Decidable (Survives text) :=
  decidable_of_iff' _ survives_iff

/-- What is read back from the file in which a text is remembered. -/
def recalled (text : List Char) : List Char :=
  trim (unifyLineEnds (text ++ ['\n']))

/-!
## The text that is read back
-/

/-- Without carriage returns only the end is trimmed. -/
theorem recalled_of_notMem {s : List Char} (h : '\r' ∉ '/' :: s) :
    recalled ('/' :: s) = trimRight ('/' :: s) := by
  have hended : '\r' ∉ '/' :: s ++ ['\n'] := by
    rw [List.mem_append, List.mem_singleton, not_or]
    exact ⟨h, by decide⟩
  rw [recalled, unifyLineEnds_of_notMem hended, List.cons_append, trim_cons (by decide), trimRight,
    ← List.cons_append, dropRightWhile_append_of_all _ (by decide), ← trimRight]

theorem recalled_of_survives {s : List Char} (h : Survives ('/' :: s)) :
    recalled ('/' :: s) = '/' :: s := by
  rw [recalled_of_notMem h.kept, trimRight, dropRightWhile_eq_self h.ended]

/-- What is read back starts with a slash like the text, and holds no carriage return. -/
theorem exists_recalled (s : List Char) :
    exists t, recalled ('/' :: s) = '/' :: t ∧ '\r' ∉ '/' :: t := by
  have hunified : unifyLineEnds ('/' :: s ++ ['\n']) = '/' :: unifyLineEnds (s ++ ['\n']) := rfl
  have hfree := notMem_unifyLineEnds ('/' :: s ++ ['\n'])
  rw [hunified, List.mem_cons, not_or] at hfree
  rw [recalled, hunified, trim_cons (by decide), trimRight,
    dropRightWhile_cons_of_neg (by decide)]
  refine ⟨_, rfl, ?_⟩
  rw [List.mem_cons, not_or]
  exact ⟨hfree.1, fun h => hfree.2 (mem_of_mem_dropRightWhile h)⟩

namespace Machine

variable {m : Machine} {memory document : Path} {at_ place : Place} {s : List Char}

/-!
## Looking up what was remembered
-/

/-- A machine that remembers a text in a file at a place. -/
def keepingText (m : Machine) (at_ : Place) (text : List Char) : Machine :=
  m.putting at_ (utf8Bytes (text ++ ['\n']))

theorem holds_keepingText_iff (hwrite : m.placeToWrite memory = .ok at_) {text : List Char} :
    (m.keepingText at_ text).answers.Holds memory s ↔ s = recalled text := by
  have hread := readBytes_of_placeToWrite (utf8Bytes (text ++ ['\n'])) hwrite
  constructor
  · rintro ⟨_, bytes, t, hbytes, hdecode, hs⟩
    have hsame : bytes = utf8Bytes (text ++ ['\n']) := Except.ok.inj (hbytes.symm.trans hread)
    rw [hsame, decodeUtf8_utf8Bytes] at hdecode
    rw [hs, ← Except.ok.inj hdecode, recalled]
  · intro hs
    exact ⟨isPresent_of_placeToWrite hwrite, _, _, hread, decodeUtf8_utf8Bytes _, hs⟩

/-- A text with a slash at its start names what is found at its path, without any home. -/
theorem names_cons_iff :
    m.answers.Names ('/' :: s) place ↔
      m.isFile (.ofText ('/' :: s)) = .ok true ∧ m.resolve (.ofText ('/' :: s)) = .ok place := by
  have hexpand : expandWith m.homeOf (.ofText ('/' :: s)) = .ok (.ofText ('/' :: s)) := by
    unfold expandWith
    split
    next hroot _ => exact absurd hroot (root_ofText_ne_relative s)
    · rfl
  constructor
  · rintro ⟨_, candidate, hcandidate, hfile, hplace⟩
    rw [← Except.ok.inj (hexpand.symm.trans hcandidate)] at hfile hplace
    exact ⟨hfile, hplace⟩
  · rintro ⟨hfile, hplace⟩
    exact ⟨List.cons_ne_nil _ _, _, hexpand, hfile, hplace⟩

/-- What is found in the place of a file that is reached from the root is found there after the
text was remembered, too. -/
theorem isFile_keepingText (text : List Char) (hwrite : m.placeToWrite memory = .ok at_)
    (hreach : m.store.Reaches place) (hkind : m.store.kind? place = some .file)
    (hshort : (utf8Bytes (Path.ofNames place).text).length < pathLimit) :
    (m.keepingText at_ text).isFile (.ofNames place) = .ok true ∧
      (m.keepingText at_ text).resolve (.ofNames place) = .ok place := by
  have hnull : '\x00' ∉ (Path.ofNames place).text := by
    intro h
    rcases mem_text_ofNames h with h | ⟨name, hname, h⟩
    · cases h
    · exact (hreach.entry name hname).null h
  have hlocate : m.locate (.ofNames place) = .ok place :=
    locate_eq_ok_iff.2 ⟨checkPath_eq_ok_iff.2 ⟨hnull, hshort⟩, hreach.walk⟩
  have hat := (placeToWrite_cases hwrite).2.1
  have hafter := locate_putting (utf8Bytes (text ++ ['\n'])) hat hlocate
  exact ⟨isFile_eq_true_iff.2 ⟨place, hafter, Store.kind?_put hat hkind⟩,
    resolve_eq_of_locate hafter⟩

/-- The place that a text leads to is the one whose path was remembered only if nothing of that
path was lost. -/
theorem survives_of_names (hreach : m.store.Reaches place)
    {m' : Machine} (h : m'.answers.Names (recalled (Path.ofNames place).text) place) :
    Survives (Path.ofNames place).text := by
  have hpath := text_ofNames place
  rcases exists_recalled (joinWith ['/'] place) with ⟨t, ht, hfree⟩
  rw [← hpath] at ht
  rw [ht] at h
  rcases names_cons_iff.1 h with ⟨hfile, hplace⟩
  rcases isFile_eq_true_iff.1 hfile with ⟨found, hfound, _⟩
  have hsteps : place = (steps ('/' :: t)).foldl step [] := by
    have hstart : m'.startOf (.ofText ('/' :: t)) = [] :=
      if_pos (decide_eq_true (root_ofText_ne_relative t))
    rw [resolve_of_locate hfound, hstart] at hplace
    exact (Except.ok.inj hplace).symm
  -- The names of the place stand in the text that is read back, which has no carriage return.
  have hkept : '\r' ∉ (Path.ofNames place).text := by
    intro hmem
    rcases mem_text_ofNames hmem with hslash | ⟨name, hname, hmem⟩
    · cases hslash
    · rw [hsteps] at hname
      rcases mem_foldl_step hname with hnil | ⟨hname, _⟩
      · cases hnil
      · exact hfree (mem_of_mem_steps hname hmem)
  have htrim : trimRight (Path.ofNames place).text = '/' :: t := by
    rw [← ht, hpath, recalled_of_notMem (hpath ▸ hkept)]
  have hended : ∀ c ∈ (Path.ofNames place).text.getLast?, isBlank c = false := by
    intro c hc
    cases hblank : isBlank c with
    | false => rfl
    | true =>
        -- The text that is read back would be too short to lead to the place.
        have hshorter := length_dropRightWhile_lt hc hblank
        rw [← trimRight, htrim] at hshorter
        exact absurd (length_text_le_of_foldl_step hsteps) (Nat.not_le_of_lt hshorter)
  refine ⟨hkept, hended, ?_⟩
  rw [trimRight, dropRightWhile_eq_self hended] at htrim
  have hnames : ∀ name ∈ place, IsName name := fun name hname => (hreach.entry name hname).toIsName
  have hcheck := (locate_eq_ok_iff.1 hfound).1
  rw [← htrim, ofText_ofNames hnames] at hcheck
  exact (checkPath_eq_ok_iff.1 hcheck).2

/-- The path of a file is found again exactly if it comes back from the file in which it is
remembered. -/
theorem remembered_keepingText_iff (hwrite : m.placeToWrite memory = .ok at_)
    (hreach : m.store.Reaches place) (hkind : m.store.kind? place = some .file) :
    (m.keepingText at_ (Path.ofNames place).text).remembered memory =
        .ok (some (.ofNames place)) ↔
      Survives (Path.ofNames place).text := by
  rw [remembered, Answers.remembered_eq_some_iff]
  constructor
  · rintro ⟨s, found, hholds, hnames, hfound⟩
    have hplace : place = found := congrArg Path.names hfound
    rw [(holds_keepingText_iff hwrite).1 hholds, ← hplace] at hnames
    exact survives_of_names hreach hnames
  · intro hsurvives
    have hsame : recalled (Path.ofNames place).text = (Path.ofNames place).text := by
      rw [text_ofNames] at hsurvives ⊢
      exact recalled_of_survives hsurvives
    refine ⟨_, place, (holds_keepingText_iff hwrite).2 hsame.symm, ?_, rfl⟩
    have hnames : ∀ name ∈ place, IsName name :=
      fun name hname => (hreach.entry name hname).toIsName
    have hread := ofText_ofNames hnames
    rw [text_ofNames] at hread ⊢
    rw [names_cons_iff, hread, ← text_ofNames]
    exact isFile_keepingText _ hwrite hreach hkind hsurvives.short

/-!
## Remembering
-/

/-- The place of an existing file is reached from the root. -/
theorem exists_reaches (hhere : m.store.Reaches m.here)
    (hnames : ∀ name ∈ document.names, IsName name) (hfile : m.isFile document = .ok true) :
    exists place, m.resolve document = .ok place ∧ m.store.Reaches place ∧
      m.store.kind? place = some .file := by
  rcases isFile_eq_true_iff.1 hfile with ⟨place, hplace, hkind⟩
  rcases locate_eq_ok_iff.1 hplace with ⟨hcheck, hwalk⟩
  have hnull := (checkPath_eq_ok_iff.1 hcheck).1
  have hentries : ∀ name ∈ document.names, IsName name ∧ '\x00' ∉ name := fun name hname =>
    ⟨hnames name hname, fun h => hnull (mem_text_of_mem_names hname h)⟩
  have hstart : m.store.Reaches (m.startOf document) := by
    unfold startOf at hwalk ⊢
    split at hwalk
    next habsolute =>
      rw [if_pos habsolute]
      exact .nil (Store.isSome_kind?_of_walk hwalk)
    next hrelative =>
      rw [if_neg hrelative]
      exact hhere
  exact ⟨place, resolve_eq_of_locate hplace, hstart.of_walk hentries hwalk, hkind⟩

/-- A document was remembered: the path of its place was written. -/
theorem remember_eq_true {m' : Machine} (h : m.remember document memory = .ok (true, m'))
    (hplace : m.resolve document = .ok place) :
    exists at_, m.placeToWrite memory = .ok at_ ∧
      m' = m.keepingText at_ (Path.ofNames place).text := by
  have hanswer : (system.answers m).resolve document = .ok place := hplace
  unfold remember System.remember at h
  rw [hanswer] at h
  dsimp only at h
  split at h
  next u after hwrite =>
    cases h
    exact write_eq_ok hwrite
  next g after hwrite =>
    split at h <;> cases h

end Machine
end Files
end Folio
