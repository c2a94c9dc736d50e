import Folio.Proofs.Files.Named
import Folio.Proofs.Files.Remembered

/-!
# What a write leaves

Writing a file changes what is found at its place and nowhere else: files stay files and folders
stay folders, so every walk still leads where it led. A file that was written is read back with
the bytes that were written, and every place that can be reached can be reached from the root.
-/

namespace Folio
namespace Files

open Text

namespace Store

variable {s : Store} {at_ place start : Place} {bytes : List Nat}

/-!
## What is found after a write
-/

theorem bytes?_put_of_ne (h : place ≠ at_) : (s.put at_ bytes).bytes? place = s.bytes? place := by
  have hne : (at_ == place) = false := beq_false_of_ne fun heq => h heq.symm
  have hfilter (f : Place × List Nat) :
      decide ((f.1 != at_) = true ∧ (f.1 == place) = true) = (f.1 == place) := by
    by_cases hf : f.1 = place
    · simp [hf, h]
    · simp [hf]
  simp only [bytes?, put, List.find?_cons, hne, List.find?_filter, hfilter]

theorem hasFolder_put (h : s.hasFolder place = true) :
    (s.put at_ bytes).hasFolder place = true := by
  simp only [hasFolder, put, Bool.or_eq_true, List.any_cons, List.any_filter] at h ⊢
  rcases h with h | h
  · exact .inl h
  · rcases List.any_eq_true.1 h with ⟨f, hf, hprefix⟩
    by_cases hat : f.1 = at_
    · rw [hat] at hprefix
      exact .inr (.inl hprefix)
    · refine .inr (.inr (List.any_eq_true.2 ⟨f, hf, ?_⟩))
      simp only [Bool.and_eq_true, bne_iff_ne, ne_eq]
      exact ⟨hat, by simpa using hprefix⟩

/-- What there is, stays what it is if a file is not written in the place of a folder. -/
theorem kind?_put {k : Kind} (hat : s.kind? at_ ≠ some .folder) (h : s.kind? place = some k) :
    (s.put at_ bytes).kind? place = some k := by
  by_cases hplace : place = at_
  · rw [hplace] at h ⊢
    have hk : k = .file := by
      cases k with
      | file => rfl
      | folder => exact absurd h hat
    rw [kind?, bytes?_put, hk]
    rfl
  · unfold kind? at h ⊢
    rw [bytes?_put_of_ne hplace]
    split at h
    next hsome =>
      rw [if_pos hsome]
      exact h
    next hnone =>
      rw [if_neg hnone]
      split at h
      next hfolder =>
        rw [if_pos (hasFolder_put hfolder)]
        exact h
      · cases h

/-!
## Walks
-/

theorem walk_cons_eq_ok_iff {name : List Char} {rest : List (List Char)} :
    s.walk start (name :: rest) = .ok place ↔
      s.kind? start = some .folder ∧ (utf8Bytes name).length ≤ nameLimit ∧
        s.walk (Machine.step start name) rest = .ok place := by
  rw [walk]
  split
  next hkind => simp [hkind]
  next hkind => simp [hkind]
  next hkind =>
    split
    next hlong => simp [Nat.not_le_of_lt hlong]
    next hshort =>
      have hstep : (if name = "..".toList then s.walk start.dropLast rest
          else s.walk (start ++ [name]) rest) = s.walk (Machine.step start name) rest := by
        unfold Machine.step
        split <;> rfl
      rw [hstep]
      exact ⟨fun h => ⟨hkind, Nat.le_of_not_lt hshort, h⟩, fun h => h.2.2⟩

theorem walk_nil_eq_ok_iff :
    s.walk start [] = .ok place ↔ (s.kind? start).isSome = true ∧ start = place := by
  rw [walk]
  split
  next h => simp [h]
  next h => simp [h]

theorem isSome_kind?_of_walk {names : List (List Char)} (h : s.walk start names = .ok place) :
    (s.kind? start).isSome = true := by
  cases names with
  | nil => exact (walk_nil_eq_ok_iff.1 h).1
  | cons name rest =>
      rw [(walk_cons_eq_ok_iff.1 h).1]
      rfl

theorem walk_put {names : List (List Char)} (hat : s.kind? at_ ≠ some .folder)
    (h : s.walk start names = .ok place) : (s.put at_ bytes).walk start names = .ok place := by
  induction names generalizing start with
  | nil =>
      rcases walk_nil_eq_ok_iff.1 h with ⟨hsome, rfl⟩
      rcases Option.isSome_iff_exists.1 hsome with ⟨k, hk⟩
      refine walk_nil_eq_ok_iff.2 ⟨?_, rfl⟩
      rw [kind?_put hat hk]
      rfl
  | cons name rest ih =>
      rcases walk_cons_eq_ok_iff.1 h with ⟨hfolder, hshort, hrest⟩
      exact walk_cons_eq_ok_iff.2 ⟨kind?_put hat hfolder, hshort, ih hrest⟩

/-- A walk goes on from where it led. -/
theorem walk_append_eq_ok_iff {names more : List (List Char)} :
    s.walk start (names ++ more) = .ok place ↔
      ∃ middle, s.walk start names = .ok middle ∧ s.walk middle more = .ok place := by
  induction names generalizing start with
  | nil =>
      rw [List.nil_append]
      constructor
      · intro h
        exact ⟨start, walk_nil_eq_ok_iff.2 ⟨isSome_kind?_of_walk h, rfl⟩, h⟩
      · rintro ⟨middle, hmiddle, h⟩
        rw [(walk_nil_eq_ok_iff.1 hmiddle).2]
        exact h
  | cons name rest ih =>
      rw [List.cons_append, walk_cons_eq_ok_iff, ih]
      simp only [walk_cons_eq_ok_iff]
      constructor
      · rintro ⟨hfolder, hshort, middle, hrest, hmore⟩
        exact ⟨middle, ⟨hfolder, hshort, hrest⟩, hmore⟩
      · rintro ⟨middle, ⟨hfolder, hshort, hrest⟩, hmore⟩
        exact ⟨hfolder, hshort, middle, hrest, hmore⟩

/-!
## Walks from the root
-/

/-- A place is reached from the root by its own names, and none of them leads back. -/
structure Reaches (s : Store) (place : Place) : Prop where
  entry : ∀ name ∈ place, IsEntry name
  walk : s.walk [] place = .ok place

theorem Reaches.nil (h : (s.kind? []).isSome = true) : s.Reaches [] where
  entry _ hname := absurd hname List.not_mem_nil
  walk := walk_nil_eq_ok_iff.2 ⟨h, rfl⟩

theorem Reaches.dropLast (h : s.Reaches place) : s.Reaches place.dropLast := by
  rcases List.eq_nil_or_concat place with rfl | ⟨before, last, rfl⟩
  · exact h
  · rw [List.concat_eq_append] at h
    rw [List.concat_eq_append, List.dropLast_concat]
    have hentry : ∀ name ∈ before, IsEntry name :=
      fun name hname => h.entry name (List.mem_append_left [last] hname)
    rcases walk_append_eq_ok_iff.1 h.walk with ⟨middle, hmiddle, _⟩
    -- Without names that lead back a walk from the root ends at its own names.
    have hbefore : middle = before := by
      rw [eq_of_walk hmiddle, foldl_step_of_isEntry hentry, List.nil_append]
    exact ⟨hentry, hbefore ▸ hmiddle⟩

/-- A step from a folder that is reached from the root is reached from there. -/
theorem Reaches.step {name : List Char} (h : s.Reaches place)
    (hfolder : s.kind? place = some .folder) (hshort : (utf8Bytes name).length ≤ nameLimit)
    (hname : IsName name) (hnull : '\x00' ∉ name)
    (hsome : (s.kind? (Machine.step place name)).isSome = true) :
    s.Reaches (Machine.step place name) := by
  by_cases hback : name = "..".toList
  · rw [Machine.step, if_pos hback]
    exact h.dropLast
  · have hlast : s.walk place [name] = .ok (Machine.step place name) :=
      walk_cons_eq_ok_iff.2 ⟨hfolder, hshort, walk_nil_eq_ok_iff.2 ⟨hsome, rfl⟩⟩
    rw [Machine.step, if_neg hback] at hlast ⊢
    refine ⟨fun n hn => ?_, walk_append_eq_ok_iff.2 ⟨place, h.walk, hlast⟩⟩
    rcases List.mem_append.1 hn with hn | hn
    · exact h.entry n hn
    · rw [List.mem_singleton.1 hn]
      exact ⟨hname, hback, hnull⟩

/-- A walk from a place that is reached from the root leads to such a place. -/
theorem Reaches.of_walk {names : List (List Char)} (hstart : s.Reaches start)
    (hnames : ∀ name ∈ names, IsName name ∧ '\x00' ∉ name)
    (h : s.walk start names = .ok place) : s.Reaches place := by
  induction names generalizing start with
  | nil =>
      rw [← (walk_nil_eq_ok_iff.1 h).2]
      exact hstart
  | cons name rest ih =>
      rcases walk_cons_eq_ok_iff.1 h with ⟨hfolder, hshort, hrest⟩
      rcases hnames name List.mem_cons_self with ⟨hname, hnull⟩
      have hstep := hstart.step hfolder hshort hname hnull (isSome_kind?_of_walk hrest)
      exact ih hstep (fun n hn => hnames n (List.mem_cons_of_mem name hn)) hrest

end Store

namespace Machine

variable {m : Machine} {p : Path} {place : Place} {bytes : List Nat}

/-!
## Locating
-/

theorem checkPath_eq_ok_iff :
    checkPath p = .ok () ↔ '\x00' ∉ p.text ∧ (utf8Bytes p.text).length < pathLimit := by
  unfold checkPath
  split
  next hnull => simp [List.contains_iff_mem.1 hnull]
  next hnull =>
    have hfree : '\x00' ∉ p.text := fun h => hnull (List.contains_iff_mem.2 h)
    split
    next hlong => simp [Nat.not_lt_of_le hlong]
    next hshort => simp [hfree, Nat.lt_of_not_le hshort]

theorem locate_eq_ok_iff :
    m.locate p = .ok place ↔
      checkPath p = .ok () ∧ m.store.walk (m.startOf p) p.names = .ok place := by
  unfold locate
  rw [bind_eq_ok_iff]
  constructor
  · rintro ⟨_, hcheck, hwalk⟩
    exact ⟨hcheck, hwalk⟩
  · rintro ⟨hcheck, hwalk⟩
    exact ⟨_, hcheck, hwalk⟩

theorem isFile_eq_true_iff :
    m.isFile p = .ok true ↔ ∃ place, m.locate p = .ok place ∧ m.store.kind? place = some .file := by
  constructor
  · intro h
    rcases exists_locate_of_find? rfl h with ⟨place, hplace, hkind⟩
    exact ⟨place, hplace, beq_iff_eq.1 hkind⟩
  · rintro ⟨place, hplace, hkind⟩
    simp only [isFile, find?, hplace, hkind, Except.map, beq_self_eq_true]

theorem resolve_eq_of_locate (h : m.locate p = .ok place) : m.resolve p = .ok place := by
  rw [resolve_of_locate h, ← Store.eq_of_walk (walk_of_locate h)]

theorem locate_of_isFile (hfile : m.isFile p = .ok true) (hplace : m.resolve p = .ok place) :
    m.locate p = .ok place := by
  rcases isFile_eq_true_iff.1 hfile with ⟨found, hfound, _⟩
  rw [← Except.ok.inj ((resolve_eq_of_locate hfound).symm.trans hplace)]
  exact hfound

theorem readBytes_eq_ok_iff :
    m.readBytes p = .ok bytes ↔
      ∃ place, m.locate p = .ok place ∧ m.store.bytes? place = some bytes := by
  unfold readBytes
  rw [bind_eq_ok_iff]
  refine exists_congr fun place => and_congr_right fun _ => ?_
  cases m.store.bytes? place <;> simp

/-!
## Writing and reading back
-/

/-- What holds if a file may be written: it is not a folder, and its name stands in one. -/
theorem placeToWrite_cases (h : m.placeToWrite p = .ok place) :
    checkPath p = .ok () ∧ m.store.kind? place ≠ some .folder ∧
      ∃ folder name, p.names = p.names.dropLast ++ [name] ∧
        m.store.walk (m.startOf p) p.names.dropLast = .ok folder ∧
        m.store.kind? folder = some .folder ∧ (utf8Bytes name).length ≤ nameLimit ∧
        place = step folder name := by
  unfold placeToWrite at h
  rcases bind_eq_ok_iff.1 h with ⟨_, hcheck, h⟩
  split at h
  · cases h
  next name hname =>
    rcases bind_eq_ok_iff.1 h with ⟨folder, hfolder, h⟩
    split at h
    next hkind =>
      split at h
      · cases h
      next hshort =>
        dsimp only at h
        split at h
        · cases h
        next hplace =>
          cases h
          have hnames : p.names = p.names.dropLast ++ [name] := by
            rcases List.getLast?_eq_some_iff.1 hname with ⟨before, hbefore⟩
            rw [hbefore, List.dropLast_concat]
          exact ⟨hcheck, hplace, folder, name, hnames, hfolder, hkind, Nat.le_of_not_lt hshort,
            rfl⟩
    · cases h

/-- A machine on which bytes were put into the file at a place. -/
def putting (m : Machine) (place : Place) (bytes : List Nat) : Machine :=
  { m with store := m.store.put place bytes }

theorem bytes?_putting (m : Machine) (place : Place) (bytes : List Nat) :
    (m.putting place bytes).store.bytes? place = some bytes :=
  Store.bytes?_put m.store place bytes

theorem kind?_putting (m : Machine) (place : Place) (bytes : List Nat) :
    (m.putting place bytes).store.kind? place = some .file := by
  rw [Store.kind?, bytes?_putting]
  rfl

theorem write_eq_ok {m' : Machine} (h : Machine.write p bytes m = (.ok (), m')) :
    ∃ place, m.placeToWrite p = .ok place ∧ m' = m.putting place bytes := by
  unfold write at h
  split at h
  next place hplace =>
    cases h
    exact ⟨place, hplace, rfl⟩
  next => cases h

theorem locate_putting (bytes : List Nat) (hplace : m.store.kind? place ≠ some .folder) {q : Path}
    {found : Place}
    (h : m.locate q = .ok found) : (m.putting place bytes).locate q = .ok found := by
  rcases locate_eq_ok_iff.1 h with ⟨hcheck, hwalk⟩
  exact locate_eq_ok_iff.2 ⟨hcheck, Store.walk_put hplace hwalk⟩

/-- A file that was written is found where it was written. -/
theorem locate_of_placeToWrite (h : m.placeToWrite p = .ok place) :
    (m.putting place bytes).locate p = .ok place := by
  rcases placeToWrite_cases h with ⟨hcheck, hplace, folder, name, hnames, hwalk, hkind, hshort, rfl⟩
  refine locate_eq_ok_iff.2 ⟨hcheck, ?_⟩
  rw [hnames]
  refine Store.walk_append_eq_ok_iff.2 ⟨folder, Store.walk_put hplace hwalk, ?_⟩
  refine Store.walk_cons_eq_ok_iff.2 ⟨Store.kind?_put hplace hkind, hshort, ?_⟩
  refine Store.walk_nil_eq_ok_iff.2 ⟨?_, rfl⟩
  rw [kind?_putting]
  rfl

theorem readBytes_of_placeToWrite (bytes : List Nat) (h : m.placeToWrite p = .ok place) :
    (m.putting place bytes).readBytes p = .ok bytes :=
  readBytes_eq_ok_iff.2 ⟨place, locate_of_placeToWrite h, bytes?_putting m place bytes⟩

theorem isPresent_of_placeToWrite (h : m.placeToWrite p = .ok place) :
    (m.putting place bytes).isPresent p = .ok true := by
  simp only [isPresent, find?, locate_of_placeToWrite h, kind?_putting, Except.map,
    Option.isSome_some]

end Machine
end Files
end Folio
