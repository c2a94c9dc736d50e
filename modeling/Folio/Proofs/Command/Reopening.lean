import Folio.Proofs.Command.Opening
import Folio.Proofs.Files.Recalled

/-!
# Opening the remembered document again

A start that opens a document remembers its place, and a start without a name opens what is
remembered. The second start opens the same document exactly if the path of its place comes back
from the file in which it is remembered.
-/

namespace Folio
namespace Command

open Text Files

variable {σ : Type} {sys : System σ} {s s' : σ} {p : Path} {text : List Char} {d : Direction}
  {arguments : List (List Char)} {r : Request}

/-!
## Starting without a name
-/

/-- What a start opened was a file with that text. -/
theorem opened_of_startIn (h : startIn sys arguments s = .ok (.opened ⟨text, some p, d⟩, s')) :
    Opened sys s p text s' := by
  unfold startIn at h
  split at h
  · cases h
  · cases h
  next r _ =>
    rcases bind_eq_ok_iff.1 h with ⟨found, _, h⟩
    cases found with
    | none => cases h
    | some q =>
        rcases openDocument_eq_ok_iff.1 h with ⟨message, _, h, _⟩ | ⟨t, hopened, h⟩
        · cases h
        · cases h
          exact hopened

/-- A start without a name opens a document exactly if it is the remembered one. -/
theorem startIn_eq_opened_iff (hread : readArguments arguments = .request r)
    (hpath : r.path = none) :
    startIn sys arguments s = .ok (.opened ⟨text, some p, d⟩, s') ↔
      d = r.direction ∧ Opened sys s p text s' ∧
        ∃ memory, sys.memoryPath s = .ok memory ∧
          (sys.answers s).remembered memory = .ok (some p) := by
  have hstart : startIn sys arguments s = startWith sys r s := by
    unfold startIn
    rw [hread]
  have hfound : documentFor sys r s =
      sys.memoryPath s >>= fun memory => (sys.answers s).remembered memory := by
    unfold documentFor
    rw [hpath]
  rw [hstart, startWith, hfound, bind_eq_ok_iff]
  constructor
  · rintro ⟨found, hremembered, h⟩
    cases found with
    | none => cases h
    | some q =>
        rcases openDocument_eq_ok_iff.1 h with ⟨message, _, h, _⟩ | ⟨t, hopened, h⟩
        · cases h
        · cases h
          exact ⟨rfl, hopened, bind_eq_ok_iff.1 hremembered⟩
  · rintro ⟨rfl, hopened, hremembered⟩
    exact ⟨some p, bind_eq_ok_iff.2 hremembered,
      openDocument_eq_ok_iff.2 (.inr ⟨text, hopened, rfl⟩)⟩

/-!
## The machine that remembers
-/

variable {m m' : Machine} {memory document : Path} {place at_ : Place}

/-- A file of text is a file of text after a text was remembered, be it in that file. -/
theorem exists_holdsText (htext : HoldsText Machine.system m document text)
    (hplace : m.resolve document = .ok place) {kept : List Char}
    (hfile : (m.keepingText at_ kept).isFile (.ofNames place) = .ok true)
    (hresolve : (m.keepingText at_ kept).resolve (.ofNames place) = .ok place) :
    exists text', HoldsText Machine.system (m.keepingText at_ kept) (.ofNames place) text' := by
  rcases htext with ⟨hdocument, bytes, t, hbytes, hdecode, _⟩
  rcases Machine.readBytes_eq_ok_iff.1 hbytes with ⟨found, hfound, hbytes⟩
  have hsame : found = place :=
    Except.ok.inj (hfound.symm.trans (Machine.locate_of_isFile hdocument hplace))
  rw [hsame] at hbytes
  have hlocate := Machine.locate_of_isFile hfile hresolve
  by_cases hat : place = at_
  · have hread : (m.keepingText at_ kept).readBytes (.ofNames place) =
        .ok (utf8Bytes (kept ++ ['\n'])) :=
      Machine.readBytes_eq_ok_iff.2 ⟨place, hlocate, hat ▸ Machine.bytes?_putting m at_ _⟩
    exact ⟨_, hfile, _, _, hread, decodeUtf8_utf8Bytes _, rfl⟩
  · have hread : (m.keepingText at_ kept).readBytes (.ofNames place) = .ok bytes :=
      Machine.readBytes_eq_ok_iff.2 ⟨place, hlocate, (Store.bytes?_put_of_ne hat).trans hbytes⟩
    exact ⟨_, hfile, _, _, hread, hdecode, rfl⟩

/-- Where a document is remembered whose path comes back, a start without a name opens it. -/
theorem exists_startIn_of_survives (hwrite : m.placeToWrite m.memoryPath = .ok at_)
    (hreach : m.store.Reaches place) (hkind : m.store.kind? place = some .file)
    (htext : HoldsText Machine.system m document text) (hplace : m.resolve document = .ok place)
    (hsurvives : Survives (Path.ofNames place).text)
    (hread : readArguments arguments = .request r) (hpath : r.path = none) :
    exists text' m', start (m.keepingText at_ (Path.ofNames place).text) arguments =
      .ok (.opened ⟨text', some (.ofNames place), r.direction⟩, m') := by
  rcases Machine.isFile_keepingText (Path.ofNames place).text hwrite hreach hkind
    hsurvives.short with ⟨hfile, hresolve⟩
  rcases exists_holdsText htext hplace hfile hresolve with ⟨text', htext'⟩
  have hnull : '\x00' ∉ m.memoryPath.text :=
    (Machine.checkPath_eq_ok_iff.1 (Machine.placeToWrite_cases hwrite).1).1
  rcases exists_remember htext'.1 hnull with ⟨⟨saved, m'⟩, hsaved⟩
  refine ⟨text', m', (startIn_eq_opened_iff hread hpath).2 ⟨rfl, ⟨htext', _, saved, rfl, hsaved⟩,
    _, rfl, ?_⟩⟩
  exact (Machine.remembered_keepingText_iff hwrite hreach hkind).2 hsurvives

/-!
## The document that comes back
-/

/-- An existing file that was remembered is found again exactly if the path of its place comes
back from the file in which it is remembered. The same holds for two starts: after one that
opened and remembered the document, one without a name opens its place exactly in that case. -/
theorem remembered_remember_iff (hhere : m.store.Reaches m.here)
    (hnames : ∀ name ∈ document.names, IsName name) (hfile : m.isFile document = .ok true) :
    ∃ place, m.resolve document = .ok place ∧
      (∀ memory m', m.remember document memory = .ok (true, m') →
        (m'.remembered memory = .ok (some (.ofNames place)) ↔
          Survives (Path.ofNames place).text)) ∧
      (∀ arguments text d m' again r,
        start m arguments = .ok (.opened ⟨text, some document, d⟩, m') →
        m.remember document m.memoryPath = .ok (true, m') →
        readArguments again = .request r → r.path = none →
        ((∃ text' m'', start m' again =
            .ok (.opened ⟨text', some (.ofNames place), r.direction⟩, m'')) ↔
          Survives (Path.ofNames place).text)) := by
  rcases Machine.exists_reaches hhere hnames hfile with ⟨place, hplace, hreach, hkind⟩
  refine ⟨place, hplace, ?_, ?_⟩
  · intro memory m' hremember
    rcases Machine.remember_eq_true hremember hplace with ⟨at_, hwrite, rfl⟩
    exact Machine.remembered_keepingText_iff hwrite hreach hkind
  · intro arguments text d m' again r hstart hremember hread hpath
    rcases Machine.remember_eq_true hremember hplace with ⟨at_, hwrite, rfl⟩
    constructor
    · rintro ⟨text', m'', hagain⟩
      rcases (startIn_eq_opened_iff hread hpath).1 hagain with ⟨_, _, memory, hmemory, hfound⟩
      cases hmemory
      exact (Machine.remembered_keepingText_iff hwrite hreach hkind).1 hfound
    · intro hsurvives
      have htext := (opened_of_startIn hstart).1
      exact exists_startIn_of_survives hwrite hreach hkind htext hplace hsurvives hread hpath

theorem remembered_remember_holding :
    ∃ m', (holding ["a".toList] []).remember ⟨.relative, ["a".toList]⟩ (holding [] []).memoryPath =
        .ok (true, m') ∧
      m'.remembered (holding [] []).memoryPath = .ok (some ⟨.absolute, ["a".toList]⟩) ∧
      ∃ text m'', start m' [] =
        .ok (.opened ⟨text, some ⟨.absolute, ["a".toList]⟩, .rtl⟩, m'') := by
  have hhere : (holding ["a".toList] []).store.Reaches [] := .nil (by rfl)
  have hnames : ∀ name ∈ ["a".toList], IsName name := by
    intro name hname
    rw [List.mem_singleton.1 hname]
    exact ⟨by decide, by decide⟩
  have hfile : (holding ["a".toList] []).isFile ⟨.relative, ["a".toList]⟩ = .ok true := by rfl
  rcases remembered_remember_iff hhere hnames hfile with ⟨place, hplace, hremembered, hstart⟩
  have ha : place = ["a".toList] := Except.ok.inj hplace.symm
  rw [ha] at hremembered hstart
  have hsurvives : Survives (Path.ofNames ["a".toList]).text := by decide
  refine ⟨_, by rfl, (hremembered _ _ (by rfl)).2 hsurvives, ?_⟩
  exact (hstart ["a".toList] [] .rtl _ [] ⟨none, false, false⟩ (by rfl) (by rfl) (by rfl) rfl).2
    hsurvives

/-- A blank at the end of a name and a carriage return in it are lost. -/
theorem remembered_remember_lost :
    (∃ m', (holding ["a ".toList] []).remember ⟨.relative, ["a ".toList]⟩
        (holding [] []).memoryPath = .ok (true, m') ∧
      m'.remembered (holding [] []).memoryPath = .ok none) ∧
    (∃ m', (holding ["a\rb".toList] []).remember ⟨.relative, ["a\rb".toList]⟩
        (holding [] []).memoryPath = .ok (true, m') ∧
      m'.remembered (holding [] []).memoryPath = .ok none) ∧
    ¬ ∀ (m m' : Machine) (memory document : Path) (place : Place), m.isFile document = .ok true →
      m.resolve document = .ok place → m.remember document memory = .ok (true, m') →
      m'.remembered memory = .ok (some (.ofNames place)) := by
  refine ⟨⟨_, by rfl, by rfl⟩, ⟨_, by rfl, by rfl⟩, fun h => ?_⟩
  have hfound := h (holding ["a ".toList] []) _ (holding [] []).memoryPath
    ⟨.relative, ["a ".toList]⟩ ["a ".toList] (by rfl) (by rfl) (by rfl)
  cases hfound

end Command
end Folio
