import Folio.Proofs.Heading.Written

/-!
# What anchors add to rendered prose

The tags that open headings are the only place where a rendering with anchors differs from one
without: if the anchors are taken from them, the fragments are the same
(`map_unanchored_fragmentsFrom`). What was listed before, and what still waits, is not seen in
the markup (`anchors_only_trace`).
-/

namespace Folio
namespace Prose

open Heading

/-- Whether an attribute is an anchor. -/
def Attribute.isAnchor : Attribute -> Bool
  | .made name _ | .taken name _ => name == "id".toList

/-- A fragment without its anchor, if it is a tag that opens a heading. -/
def Fragment.unanchored : Fragment -> Fragment
  | .tag t =>
      if t.opensHeading then
        .tag { t with attributes := t.attributes.filter (!·.isAnchor) }
      else
        .tag t
  | f => f

theorem map_unanchored_eq_self {fragments : List Fragment} (h : openedIn fragments = []) :
    fragments.map Fragment.unanchored = fragments := by
  induction fragments with
  | nil => rfl
  | cons f rest ih =>
      cases f with
      | text s | passed s => exact congrArg _ (ih h)
      | tag t =>
          cases ht : t.opensHeading with
          | true =>
              rw [openedIn_heading ht] at h
              cases h
          | false =>
              rw [openedIn_tag ht] at h
              rw [List.map_cons, ih h, Fragment.unanchored, ht, if_neg Bool.false_ne_true]

/-- A heading with its anchor taken away is written as if headings were not counted. -/
theorem map_unanchored_heading (level n : Nat) (text : List Char) (parts : List Inline) :
    (elementFragments (headingElement level) (anchorAttributes text (some n))
      (partFragments parts)).map Fragment.unanchored =
      elementFragments (headingElement level) (anchorAttributes text none)
        (partFragments parts) := by
  have htag : Fragment.unanchored
      (.tag ⟨headingElement level, anchorAttributes text (some n), ['>']⟩) =
        .tag ⟨headingElement level, anchorAttributes text none, ['>']⟩ := by
    rw [Fragment.unanchored, opensHeading_headingElement, if_pos rfl]
    rfl
  have hparts := map_unanchored_eq_self (openedIn_partFragments parts)
  rw [elementFragments, List.map_append, List.map_cons, htag, hparts]
  rfl

theorem map_unanchored_block (defs : Link.Definitions) (previous next : Option Block) (n : Nat)
    (b : Block) :
    (b.fragments defs previous next (some n)).map Fragment.unanchored =
      b.fragments defs previous next none := by
  have hopened := openedIn_block defs previous next n b
  cases b with
  | heading level text =>
      have hlead := map_unanchored_eq_self (openedIn_leadFragments previous)
      show (leadFragments previous ++ elementFragments (headingElement level)
        (anchorAttributes text (some n)) (partFragments (content defs false text))).map _ = _
      rw [List.map_append, hlead, map_unanchored_heading]
      rfl
  | start _ | stop _ | paragraph _ _ | cell _ _ _ | rule | code _ | fence _ _ | markup _
  | definition _ _ => exact map_unanchored_eq_self hopened

theorem count_block_none (defs : Link.Definitions) (previous next : Option Block) (b : Block) :
    (renderBlock defs previous next none b).count = none := by
  cases b <;> rfl

theorem map_unanchored_blockFragments (defs : Link.Definitions) (previous : Option Block)
    (n : Nat) (blocks : List Block) :
    (blockFragments defs previous (some n) blocks).map Fragment.unanchored =
      blockFragments defs previous none blocks := by
  induction blocks generalizing previous n with
  | nil => rfl
  | cons b rest ih =>
      rw [blockFragments, blockFragments, List.map_append, map_unanchored_block, count_block,
        count_block_none, ih]

theorem map_unanchored_fragmentsFrom (n : Nat) (source : List Char) :
    (fragmentsFrom (some n) source).map Fragment.unanchored = fragmentsFrom none source :=
  map_unanchored_blockFragments _ none n _

/-- In the markup of a text the tags that open headings are those of its headings, in order, each
with its anchor. Without the anchors it is the markup of the text when headings are not counted.
It depends on the number of anchors that were given out, not on what is listed or waits, and is
the same for the body of a container. -/
theorem anchors_only_trace (source : List Char) (a : Anchors) :
    (writeAll (fragmentsFrom (some a.count) source) = (renderText source a).1 ∧
      openedIn (fragmentsFrom (some a.count) source) =
        (headingsFrom a.count source).map Entry.tag ∧
      writeAll ((fragmentsFrom (some a.count) source).map Fragment.unanchored) =
        renderPlain source) ∧
    forall listed waiting,
      (renderText source ⟨listed, a.count, waiting⟩).1 = (renderText source a).1 ∧
      (renderBody source ⟨listed, a.count, waiting⟩).1 = (renderText source a).1 := by
  have hplain : writeAll ((fragmentsFrom (some a.count) source).map Fragment.unanchored) =
      renderPlain source := by
    rw [map_unanchored_fragmentsFrom, writeAll_fragmentsFrom]
    rfl
  constructor
  · exact ⟨writeAll_fragmentsFrom _ source, openedIn_fragmentsFrom a.count source, hplain⟩
  · intro listed waiting
    exact ⟨rfl, rfl⟩

end Prose
end Folio
