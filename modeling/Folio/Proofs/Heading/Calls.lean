import Folio.Proofs.Heading.Written

/-!
# Headings through calls

A rendering starts with no headings, and then texts are rendered, bodies of containers are
rendered ahead, anchors are given out, and waiting headings are listed, in any order. Each
call adds the headings that it creates to those that are listed or wait (`known_answer`),
and gives out anchors with the next counts (`exists_anchorsFrom_issued`).
-/

namespace Folio
namespace Heading

open Prose

/-!
## Headings that are listed or wait
-/

namespace Anchors

/-- The headings that are listed, and then those that wait. -/
def known (a : Anchors) : List Entry :=
  a.listed ++ a.waiting.flatten

theorem known_meet (a : Anchors) : a.meet.known = a.known :=
  listed_meet a

theorem known_flush (a : Anchors) : a.flush.known = a.known := by
  simp [known, flush]

theorem known_list (a : Anchors) (e : Entry) : (a.list e).known.Perm (a.known ++ [e]) := by
  show (a.listed ++ [e] ++ a.waiting.flatten).Perm (a.listed ++ a.waiting.flatten ++ [e])
  rw [List.append_assoc, List.append_assoc]
  exact List.perm_append_comm.append_left a.listed

/-- Notes add the headings in them, wherever containers are met. -/
theorem known_foldl_follow (notes : List Landmark) (a : Anchors) :
    (notes.foldl follow a).known.Perm (a.known ++ entries notes) := by
  induction notes generalizing a with
  | nil => exact List.Perm.of_eq (List.append_nil _).symm
  | cons note rest ih =>
      rw [List.foldl_cons]
      refine (ih _).trans ?_
      cases note with
      | heading e =>
          have hlist := (known_list a e).append_right (entries rest)
          rw [List.append_assoc] at hlist
          exact hlist
      | container => exact List.Perm.of_eq (congrArg (· ++ entries rest) (known_meet a))

theorem known_renderText (source : List Char) (a : Anchors) :
    (renderText source a).2.known.Perm
      (a.known ++ (headingsFrom a.count source).filter (isListed ·.level)) := by
  rw [← entries_renderFrom]
  unfold renderText
  simp only
  rw [known_flush]
  exact known_foldl_follow _ a

theorem known_renderBody (source : List Char) (a : Anchors) :
    (renderBody source a).2.known =
      a.known ++ (headingsFrom a.count source).filter (isListed ·.level) := by
  rw [← entries_renderFrom]
  simp only [renderBody, known, List.flatten_append, List.flatten_singleton, List.append_assoc]

theorem count_renderText (source : List Char) (a : Anchors) :
    (renderText source a).2.count = a.count + (headingsFrom a.count source).length := by
  unfold renderText
  simp only
  rw [count_flush, count_renderFrom]
  rfl

theorem count_renderBody (source : List Char) (a : Anchors) :
    (renderBody source a).2.count = a.count + (headingsFrom a.count source).length := by
  unfold renderBody
  simp only
  rw [count_renderFrom]
  rfl

end Anchors

/-!
## Calls
-/

/-- A call that works on the headings of a document. -/
inductive Call where
  /-- Render a text. -/
  | text (source : List Char)
  /-- Render the body of a container ahead. -/
  | body (source : List Char)
  /-- Give out an anchor. -/
  | next (title : List Char)
  /-- List the headings that wait. -/
  | flush

def Call.isNext : Call -> Bool
  | next _ => true
  | _ => false

/-- What a call answers, and the state behind it. -/
def Anchors.answer (a : Anchors) : Call -> List Char × Anchors
  | .text source => renderText source a
  | .body source => renderBody source a
  | .next title => a.next title
  | .flush => ([], a.flush)

def Anchors.after (a : Anchors) (calls : List Call) : Anchors :=
  calls.foldl (fun a c => (a.answer c).2) a

namespace Call

/-- What a call writes: its answer, unless that is an anchor. -/
def written (a : Anchors) (c : Call) : List Char :=
  if c.isNext then [] else (a.answer c).1

def fragments (a : Anchors) : Call -> List Fragment
  | text source => fragmentsFrom (some a.count) source
  | body source => fragmentsFrom (some a.count) source
  | next _ => []
  | flush => []

def headings (a : Anchors) : Call -> List Entry
  | text source => headingsFrom a.count source
  | body source => headingsFrom a.count source
  | next _ => []
  | flush => []

/-- The anchors that a call gives out: those of the headings that it renders, or the one
that is its answer. -/
def issued (a : Anchors) : Call -> List (List Char)
  | text source => (headingsFrom a.count source).map Entry.id
  | body source => (headingsFrom a.count source).map Entry.id
  | next title => [(a.next title).1]
  | flush => []

/-- What calls do, one after the other. -/
def gather {β : Type} (f : Anchors -> Call -> List β) : Anchors -> List Call -> List β
  | _, [] => []
  | a, c :: rest => f a c ++ gather f (a.answer c).2 rest

theorem gather_cons {β : Type} (f : Anchors -> Call -> List β) (a : Anchors) (c : Call)
    (rest : List Call) : gather f a (c :: rest) = f a c ++ gather f (a.answer c).2 rest :=
  rfl

theorem writeAll_fragments (a : Anchors) (c : Call) :
    writeAll (c.fragments a) = c.written a := by
  cases c with
  | text source =>
      rw [fragments, writeAll_fragmentsFrom]
      simp only [written, isNext, Anchors.answer, renderText]
      rfl
  | body source =>
      rw [fragments, writeAll_fragmentsFrom]
      simp only [written, isNext, Anchors.answer, renderBody]
      rfl
  | next title | flush => rfl

theorem openedIn_fragments (a : Anchors) (c : Call) :
    openedIn (c.fragments a) = (c.headings a).map Entry.tag := by
  cases c with
  | text source | body source => exact openedIn_fragmentsFrom a.count source
  | next title | flush => rfl

theorem length_issued (a : Anchors) (c : Call) :
    (c.issued a).length = (c.headings a).length + if c.isNext then 1 else 0 := by
  cases c with
  | text source | body source => exact List.length_map _
  | next title | flush => rfl

theorem exists_anchorsFrom_issued (a : Anchors) (c : Call) :
    exists texts, c.issued a = anchorsFrom a.count texts := by
  cases c with
  | text source | body source => exact exists_anchorsFrom_headingsFrom a.count source
  | next title => exact ⟨[title], rfl⟩
  | flush => exact ⟨[], rfl⟩

theorem count_answer (a : Anchors) (c : Call) :
    (a.answer c).2.count = a.count + (c.issued a).length := by
  cases c with
  | text source =>
      rw [issued, List.length_map]
      exact Anchors.count_renderText source a
  | body source =>
      rw [issued, List.length_map]
      exact Anchors.count_renderBody source a
  | next title | flush => rfl

theorem known_answer (a : Anchors) (c : Call) :
    (a.answer c).2.known.Perm (a.known ++ (c.headings a).filter (isListed ·.level)) := by
  cases c with
  | text source => exact Anchors.known_renderText source a
  | body source => exact List.Perm.of_eq (Anchors.known_renderBody source a)
  | next title => exact List.Perm.of_eq (List.append_nil _).symm
  | flush => exact List.Perm.of_eq ((Anchors.known_flush a).trans (List.append_nil _).symm)

/-!
## Runs
-/

theorem writeAll_gather (a : Anchors) (calls : List Call) :
    writeAll (gather fragments a calls) = gather written a calls := by
  induction calls generalizing a with
  | nil => rfl
  | cons c rest ih =>
      rw [gather_cons, writeAll_append, writeAll_fragments, ih, gather_cons]

theorem openedIn_gather (a : Anchors) (calls : List Call) :
    openedIn (gather fragments a calls) = (gather headings a calls).map Entry.tag := by
  induction calls generalizing a with
  | nil => rfl
  | cons c rest ih =>
      rw [gather_cons, openedIn_append, openedIn_fragments, ih, gather_cons, List.map_append]

theorem length_gather_issued (a : Anchors) (calls : List Call) :
    (gather issued a calls).length =
      (gather headings a calls).length + calls.countP isNext := by
  induction calls generalizing a with
  | nil => rfl
  | cons c rest ih =>
      rw [gather_cons, List.length_append, length_issued, ih, gather_cons, List.length_append,
        List.countP_cons]
      omega

theorem gather_append {β : Type} (f : Anchors -> Call -> List β) (a : Anchors)
    (calls others : List Call) :
    gather f a (calls ++ others) = gather f a calls ++ gather f (a.after calls) others := by
  induction calls generalizing a with
  | nil => rfl
  | cons c rest ih =>
      rw [List.cons_append, gather_cons, gather_cons, ih, List.append_assoc]
      rfl

/-- The anchors of the headings that are rendered are given out. -/
theorem sublist_gather (a : Anchors) (calls : List Call) :
    ((gather headings a calls).map Entry.id).Sublist (gather issued a calls) := by
  induction calls generalizing a with
  | nil => exact List.Sublist.refl []
  | cons c rest ih =>
      rw [gather_cons, List.map_append]
      refine List.Sublist.append ?_ (ih _)
      cases c with
      | text source | body source => exact List.Sublist.refl _
      | next title | flush => exact List.nil_sublist _

theorem count_after (a : Anchors) (calls : List Call) :
    (a.after calls).count = a.count + (gather issued a calls).length := by
  induction calls generalizing a with
  | nil => rfl
  | cons c rest ih =>
      show ((a.answer c).2.after rest).count = _
      rw [ih, count_answer, gather_cons, List.length_append, Nat.add_assoc]

theorem exists_anchorsFrom_gather (a : Anchors) (calls : List Call) :
    exists texts, gather issued a calls = anchorsFrom a.count texts := by
  induction calls generalizing a with
  | nil => exact ⟨[], rfl⟩
  | cons c rest ih =>
      rcases exists_anchorsFrom_issued a c with ⟨first, hfirst⟩
      rcases ih (a.answer c).2 with ⟨others, hothers⟩
      refine ⟨first ++ others, ?_⟩
      rw [gather_cons, hothers, count_answer, hfirst, length_anchorsFrom, anchorsFrom_append]

/-- No two headings that calls render get the same anchor. -/
theorem nodup_gather_headings (a : Anchors) (calls : List Call) :
    ((gather headings a calls).map Entry.id).Nodup := by
  rcases exists_anchorsFrom_gather a calls with ⟨texts, htexts⟩
  apply (sublist_gather a calls).nodup
  rw [htexts]
  exact nodup_anchorsFrom _ texts

theorem anchored_of_mem_gather {a : Anchors} {calls : List Call} {e : Entry}
    (h : e ∈ gather headings a calls) : e.Anchored := by
  rcases exists_anchorsFrom_gather a calls with ⟨texts, htexts⟩
  have hid := (sublist_gather a calls).subset (List.mem_map_of_mem h)
  rw [htexts] at hid
  rcases exists_of_mem_anchorsFrom hid with ⟨text, k, -, hk⟩
  exact ⟨text, k, hk⟩

theorem known_after (a : Anchors) (calls : List Call) :
    (a.after calls).known.Perm
      (a.known ++ (gather headings a calls).filter (isListed ·.level)) := by
  induction calls generalizing a with
  | nil => exact List.Perm.of_eq (List.append_nil _).symm
  | cons c rest ih =>
      show ((a.answer c).2.after rest).known.Perm _
      refine (ih _).trans ?_
      rw [gather_cons, List.filter_append, ← List.append_assoc]
      exact (known_answer a c).append_right _

/-- The containers of a text are rendered by calls, one for each body. -/
theorem after_bodies (text : List Char) (a : Anchors) :
    a.after ((Container.bodies text).map .body) = (Container.prepareWith renderBody text a).2 := by
  unfold Container.bodies Container.prepareWith
  induction Container.regions text generalizing a with
  | nil => rfl
  | cons region rest ih =>
      rw [Container.emitAll]
      dsimp only
      rw [← ih]
      cases region with
      | text _ | unclosed _ => rfl
      | closed tag body closing =>
          cases hdiv : tag.isDiv with
          | true =>
              simp only [Container.Region.emit, List.filterMap_cons, hdiv, if_true]
              rfl
          | false =>
              simp only [Container.Region.emit, List.filterMap_cons, hdiv, Bool.false_eq_true,
                if_false]

end Call

/-- Whatever calls follow the start, no heading is lost or doubled, and no two get the same
anchor. The headings that are opened in what the calls write are counted, together with the
anchors that are given out by themselves; all anchors differ; the headings that are listed
or wait are those of the listed levels; and none waits once a text was rendered. -/
theorem headings_accounted_for (calls : List Call) :
    let a := Anchors.start.after calls
    let fragments := Call.gather Call.fragments Anchors.start calls
    let headings := Call.gather Call.headings Anchors.start calls
    writeAll fragments = Call.gather Call.written Anchors.start calls ∧
      openedIn fragments = headings.map Entry.tag ∧
      a.count = headings.length + calls.countP Call.isNext ∧
      (Call.gather Call.issued Anchors.start calls).Nodup ∧
      (a.listed ++ a.waiting.flatten).Perm (headings.filter (isListed ·.level)) ∧
      forall source, (Anchors.start.after (calls ++ [.text source])).waiting = [] := by
  refine ⟨Call.writeAll_gather _ calls, Call.openedIn_gather _ calls, ?_, ?_,
    Call.known_after _ calls, ?_⟩
  · rw [Call.count_after, Call.length_gather_issued]
    exact Nat.zero_add _
  · rcases Call.exists_anchorsFrom_gather Anchors.start calls with ⟨texts, htexts⟩
    rw [htexts]
    exact nodup_anchorsFrom _ texts
  · intro source
    rw [Anchors.after, List.foldl_append]
    rfl

end Heading
end Folio
