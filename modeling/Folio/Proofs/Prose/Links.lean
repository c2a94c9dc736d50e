import Folio.Proofs.Html.Links
import Folio.Proofs.Prose.Shape
import Folio.Proofs.Prose.Standing

/-!
# Anchors that a rendering opens

What is written opens the anchors whose tags the renderer writes, and those that are typed in
the markup that is passed on (`anchorsIn_writeAll`). For inline parts the former are the links:
links and addresses of the source, and what is made a link because it looks like an address.
-/

namespace Folio
namespace Prose

open Html

/-- How many of the tags among fragments open an anchor. -/
def anchorTags (fragments : List Fragment) : Nat :=
  (tagsOf fragments).countP fun t => opensAnchor t.markup

theorem anchorTags_append (a b : List Fragment) :
    anchorTags (a ++ b) = anchorTags a + anchorTags b := by
  rw [anchorTags, tagsOf, List.filterMap_append, List.countP_append]
  rfl

theorem anchorTags_tag (t : Tag) (rest : List Fragment) :
    anchorTags (.tag t :: rest) = anchorTags rest + if opensAnchor t.markup then 1 else 0 := by
  rw [anchorTags, tagsOf, List.filterMap_cons]
  exact List.countP_cons

theorem opensAnchor_bare : opensAnchor (Tag.plain []).markup = false := by
  decide

/-- The anchors behind any text are those whose tags are written, and those that are opened where
each of these tags is empty. -/
theorem anchorsIn_append_writeAll {fragments : List Fragment}
    (h : AllTags (fun t => IsTag t.markup) fragments) (before : List Char) :
    anchorsIn (before ++ writeAll fragments) =
      anchorsIn (before ++ writeAll (fragments.map Fragment.bare)) + anchorTags fragments := by
  -- What was written so far moves into `before`.
  induction fragments generalizing before with
  | nil => rfl
  | cons f rest ih =>
      rw [List.map_cons, writeAll_cons, writeAll_cons]
      cases f with
      | text s | passed s =>
          rw [← List.append_assoc, ih h]
          exact congrArg (· + _) (congrArg anchorsIn (List.append_assoc _ _ _))
      | tag t =>
          have hrest := ih (fun u hu => h u (List.mem_cons_of_mem t hu)) []
          rw [List.nil_append, List.nil_append] at hrest
          have hwritten := anchorsIn_append_tag (h t List.mem_cons_self) before (writeAll rest)
          have hbare := anchorsIn_append_tag isTag_bare before
            (writeAll (rest.map Fragment.bare))
          rw [opensAnchor_bare, if_neg Bool.false_ne_true, Nat.add_zero] at hbare
          show anchorsIn (before ++ (t.markup ++ writeAll rest)) =
            anchorsIn (before ++ ((Tag.plain []).markup ++ writeAll (rest.map Fragment.bare))) + _
          rw [hwritten, hbare, hrest, anchorTags_tag]
          omega

theorem anchorsIn_writeAll {fragments : List Fragment}
    (h : AllTags (fun t => IsTag t.markup) fragments) :
    anchorsIn (writeAll fragments) =
      anchorsIn (writeAll (fragments.map Fragment.bare)) + anchorTags fragments :=
  anchorsIn_append_writeAll h []

/-! ## Inline parts -/

/-- Whether an inline part starts a link. -/
def Inline.isLink : Inline -> Bool
  | .anchor _ => true
  | _ => false

/-- How often markup that is passed on with inline parts opens an anchor. -/
def typedAnchors (parts : List Inline) : Nat :=
  anchorsIn (writeAll ((partFragments parts).map Fragment.bare))

theorem anchorTags_fragments (part : Inline) :
    anchorTags part.fragments = if part.isLink then 1 else 0 := by
  cases part with
  | text s | literal s => rfl
  | softBreak | hardBreak | endAnchor => decide
  | code s => rfl
  | markup s =>
      show anchorTags (if Text.occurs boxClass s then _ else _) = 0
      split
      · cases Text.occurs "checked=".toList s <;> decide
      · rfl
  | start stress | stop stress => cases stress <;> decide
  | anchor target => rfl
  | image target alt => rfl
  | box checked => cases checked <;> decide

theorem anchorTags_partFragments (parts : List Inline) :
    anchorTags (partFragments parts) = parts.countP Inline.isLink := by
  induction parts with
  | nil => rfl
  | cons part rest ih =>
      rw [partFragments, List.flatMap_cons, anchorTags_append, anchorTags_fragments,
        List.countP_cons, ← ih, Nat.add_comm]
      rfl

/-- Inline parts open an anchor for each link among them, and those that are typed. -/
theorem anchorsIn_renderParts (parts : List Inline) :
    anchorsIn (renderParts parts) = parts.countP Inline.isLink + typedAnchors parts := by
  have htags : AllTags (fun t => IsTag t.markup) (partFragments parts) :=
    fun t ht => (kind_partFragments parts t ht).shaped.isTag
  rw [← writeAll_partFragments, anchorsIn_writeAll htags, anchorTags_partFragments, Nat.add_comm]
  rfl

end Prose
end Folio
