import Folio.Prose.Document

/-!
# Listed headings

A heading is listed when a rendering notes it, and until then it waits for its container.
What holds of every heading that a rendering notes holds of all that are listed.
-/

namespace Folio
namespace Heading

/-- A heading with an anchor that was given out. -/
def Entry.Anchored (e : Entry) : Prop :=
  exists text count, e.id = anchor text count

namespace Anchors

/-!
## Steps
-/

/-- Every heading that is listed or waits satisfies `P`. -/
def All (P : Entry -> Prop) (a : Anchors) : Prop :=
  ∀ e ∈ a.listed ++ a.waiting.flatten, P e

variable {P : Entry -> Prop} {a : Anchors}

theorem all_start : start.All P := by
  intro e he
  cases he

theorem All.list (h : a.All P) {e : Entry} (he : P e) : (a.list e).All P := by
  intro d hd
  rcases List.mem_append.1 hd with hlisted | hwaiting
  · rcases List.mem_append.1 hlisted with hd | hd
    · exact h d (List.mem_append_left _ hd)
    · rw [List.mem_singleton.1 hd]
      exact he
  · exact h d (List.mem_append_right _ hwaiting)

theorem All.meet (h : a.All P) : a.meet.All P := by
  intro e he
  rw [listed_meet] at he
  exact h e he

theorem All.flush (h : a.All P) : a.flush.All P := by
  intro e he
  rw [waiting_flush, List.flatten_nil, List.append_nil] at he
  exact h e he

theorem All.wait (h : a.All P) {entries : List Entry} (hentries : ∀ e ∈ entries, P e) (n : Nat) :
    All P { a with count := n, waiting := a.waiting ++ [entries] } := by
  intro e he
  rw [List.flatten_append, List.flatten_singleton, ← List.append_assoc] at he
  rcases List.mem_append.1 he with he | he
  · exact h e he
  · exact hentries e he

end Anchors
end Heading

namespace Container

/-- What every rendering of a body preserves holds when all containers are rendered. -/
theorem emitAll_preserves {σ : Type} {render : List Char -> σ -> List Char × σ}
    {P : σ -> Prop} (hrender : forall body s, P s -> P (render body s).2)
    (regions : List Region) {s : σ} (hs : P s) : P (emitAll render regions s).2 := by
  induction regions generalizing s with
  | nil => exact hs
  | cons region rest ih =>
      apply ih
      cases region with
      | text _ | unclosed _ => exact hs
      | closed tag body closing =>
          unfold Region.emit
          simp only
          split
          · exact hrender body s hs
          · exact hs

end Container

namespace Prose

open Heading

/-!
## Runs
-/

theorem entries_append (a b : List Landmark) : entries (a ++ b) = entries a ++ entries b :=
  List.filterMap_append

/-- A block notes at most the heading that it is, with its anchor. -/
theorem anchored_of_mem_renderBlock {defs : Link.Definitions} {previous next : Option Block}
    {count : Count} {b : Block} {e : Entry}
    (h : e ∈ entries (renderBlock defs previous next count b).landmarks) : e.Anchored := by
  cases b with
  | heading level text =>
      cases count with
      | none => cases h
      | some n =>
          simp only [renderBlock, renderHeading] at h
          split at h
          · rw [List.mem_singleton.1 h]
            exact ⟨text, n + 1, rfl⟩
          · cases h
  | markup text =>
      simp only [renderBlock] at h
      split at h <;> cases h
  | start _ | stop _ | paragraph _ _ | cell _ _ _ | rule | code _ | fence _ _ | definition _ _ =>
      cases h

theorem anchored_of_mem_renderBlocks {defs : Link.Definitions} {previous : Option Block}
    {count : Count} {blocks : List Block} {e : Entry}
    (h : e ∈ entries (renderBlocks defs previous count blocks).landmarks) : e.Anchored := by
  induction blocks generalizing previous count with
  | nil => cases h
  | cons b rest ih =>
      simp only [renderBlocks] at h
      rw [entries_append] at h
      rcases List.mem_append.1 h with h | h
      · exact anchored_of_mem_renderBlock h
      · exact ih h

theorem anchored_of_mem_renderFrom {count : Count} {source : List Char} {e : Entry}
    (h : e ∈ entries (renderFrom count source).landmarks) : e.Anchored :=
  anchored_of_mem_renderBlocks h

theorem all_foldl_follow {P : Entry -> Prop} {notes : List Landmark} {a : Anchors}
    (hnotes : ∀ e ∈ entries notes, P e) (ha : a.All P) : (notes.foldl follow a).All P := by
  induction notes generalizing a with
  | nil => exact ha
  | cons note rest ih =>
      cases note with
      | heading e =>
          exact ih (fun d hd => hnotes d (List.mem_cons_of_mem e hd))
            (ha.list (hnotes e List.mem_cons_self))
      | container => exact ih hnotes ha.meet

theorem all_renderText {source : List Char} {a : Anchors} (ha : a.All Entry.Anchored) :
    (renderText source a).2.All Entry.Anchored := by
  apply Anchors.All.flush
  exact all_foldl_follow (fun _ he => anchored_of_mem_renderFrom he) ha

theorem all_renderBody {source : List Char} {a : Anchors} (ha : a.All Entry.Anchored) :
    (renderBody source a).2.All Entry.Anchored :=
  ha.wait (fun _ he => anchored_of_mem_renderFrom he) _

/-- Every heading that a document lists has an anchor that was given out. -/
theorem anchored_of_mem_listed {source : List Char} {e : Entry}
    (h : e ∈ (renderDocument source Anchors.start).2.listed) : e.Anchored := by
  have hprepared : (Container.prepareWith renderBody source Anchors.start).2.All
      Entry.Anchored :=
    Container.emitAll_preserves (fun _ _ => all_renderBody) _ Anchors.all_start
  exact all_renderText hprepared e (List.mem_append_left _ h)

end Prose
end Folio
