import Folio.Proofs.Heading.Anchor
import Folio.Proofs.Heading.Listed
import Folio.Proofs.Prose.Fragment

/-!
# The headings that a rendering writes

A rendering that counts headings writes one tag for each heading block and no other tag that
opens a heading (`openedIn_fragmentsFrom`). The count rises by their number
(`count_renderFrom`), and those of the first two levels are noted (`entries_renderFrom`).
-/

namespace Folio
namespace Heading

/-!
## Anchors with rising counts
-/

/-- The anchors of texts, with the counts behind `n`. -/
def anchorsFrom (n : Nat) : List (List Char) -> List (List Char)
  | [] => []
  | text :: rest => anchor text (n + 1) :: anchorsFrom (n + 1) rest

theorem anchorsFrom_append (n : Nat) (a b : List (List Char)) :
    anchorsFrom n (a ++ b) = anchorsFrom n a ++ anchorsFrom (n + a.length) b := by
  induction a generalizing n with
  | nil => rfl
  | cons text rest ih =>
      rw [List.cons_append, anchorsFrom, ih (n + 1), List.length_cons, Nat.add_assoc,
        Nat.add_comm 1]
      rfl

theorem length_anchorsFrom (n : Nat) (texts : List (List Char)) :
    (anchorsFrom n texts).length = texts.length := by
  induction texts generalizing n with
  | nil => rfl
  | cons text rest ih => rw [anchorsFrom, List.length_cons, ih, List.length_cons]

theorem exists_of_mem_anchorsFrom {n : Nat} {texts : List (List Char)} {id : List Char}
    (h : id ∈ anchorsFrom n texts) : exists text k, n < k ∧ id = anchor text k := by
  induction texts generalizing n with
  | nil => cases h
  | cons text rest ih =>
      rcases List.mem_cons.1 h with rfl | h
      · exact ⟨text, n + 1, Nat.lt_succ_self n, rfl⟩
      · rcases ih h with ⟨other, k, hk, hid⟩
        exact ⟨other, k, Nat.lt_of_succ_lt hk, hid⟩

theorem nodup_anchorsFrom (n : Nat) (texts : List (List Char)) :
    (anchorsFrom n texts).Nodup := by
  induction texts generalizing n with
  | nil => exact List.nodup_nil
  | cons text rest ih =>
      apply List.nodup_cons.2
      constructor
      · intro hmem
        rcases exists_of_mem_anchorsFrom hmem with ⟨other, k, hk, hid⟩
        have := count_eq_of_anchor_eq hid
        omega
      · exact ih (n + 1)

/-- The tag that opens a heading with its anchor. -/
def Entry.tag (e : Entry) : Prose.Tag :=
  ⟨'h' :: Number.intText e.level, [.fixed "id".toList e.id], ['>']⟩

end Heading

namespace Prose

open Heading Text

/-- Whether a tag opens a heading: its name is the letter with a number. -/
def Tag.opensHeading (t : Tag) : Bool :=
  match t.name with
  | 'h' :: c :: _ => c.isDigit
  | _ => false

/-- The headings that are opened among fragments. -/
def openedIn (fragments : List Fragment) : List Tag :=
  (tagsOf fragments).filter Tag.opensHeading

/-- The heading that a block is, if it is one, where `n` headings were counted before. -/
def Block.headings (defs : Link.Definitions) (n : Nat) : Block -> List Entry
  | .heading level text =>
      [⟨anchor text (n + 1), renderParts (content defs false text), level⟩]
  | _ => []

def blockHeadings (defs : Link.Definitions) (n : Nat) : List Block -> List Entry
  | [] => []
  | b :: rest =>
      b.headings defs n ++ blockHeadings defs (n + (b.headings defs n).length) rest

/-- The headings of a text, where `n` headings were counted before. -/
def headingsFrom (n : Nat) (source : List Char) : List Entry :=
  let all := blocks (normalizeLines source)
  blockHeadings (Block.definitions all) n (all.filter Block.isShown)

/-!
## Tags that open no heading
-/

theorem openedIn_append (a b : List Fragment) :
    openedIn (a ++ b) = openedIn a ++ openedIn b := by
  rw [openedIn, tagsOf, List.filterMap_append, List.filter_append]
  rfl

theorem openedIn_tag {t : Tag} (h : t.opensHeading = false) (rest : List Fragment) :
    openedIn (.tag t :: rest) = openedIn rest := by
  rw [openedIn, tagsOf, List.filterMap_cons]
  simp only [Fragment.tag?, List.filter_cons, h]
  rfl

theorem openedIn_heading {t : Tag} (h : t.opensHeading = true) (rest : List Fragment) :
    openedIn (.tag t :: rest) = t :: openedIn rest := by
  rw [openedIn, tagsOf, List.filterMap_cons]
  simp only [Fragment.tag?, List.filter_cons, h]
  rfl

theorem openedIn_fragments (part : Inline) : openedIn part.fragments = [] := by
  cases part with
  | text s | literal s | softBreak | hardBreak | code s | anchor target | endAnchor
  | image target alt | box checked => rfl
  | markup s =>
      show openedIn (if occurs boxClass s then _ else _) = []
      split
      · rfl
      · rfl
  | start stress | stop stress => cases stress <;> rfl

theorem openedIn_partFragments (parts : List Inline) : openedIn (partFragments parts) = [] := by
  induction parts with
  | nil => rfl
  | cons part rest ih =>
      rw [partFragments, List.flatMap_cons, openedIn_append, openedIn_fragments]
      exact ih

theorem openedIn_leadFragments (previous : Option Block) :
    openedIn (leadFragments previous) = [] := by
  unfold leadFragments
  split
  · rfl
  · rfl

/-- An element opens a heading exactly if its first tag does. -/
theorem openedIn_elementFragments (name : List Char) (attributes : List Attribute)
    (parts : List Inline) :
    openedIn (elementFragments name attributes (partFragments parts)) =
      openedIn [.tag ⟨name, attributes, ['>']⟩] := by
  rw [elementFragments, List.cons_append, ← List.singleton_append, openedIn_append,
    openedIn_append, openedIn_partFragments]
  exact List.append_nil _

theorem opensHeading_headingElement (level : Nat) (attributes : List Attribute)
    (ending : List Char) :
    Tag.opensHeading ⟨headingElement level, attributes, ending⟩ = true := by
  cases hdigits : Number.digitsOf level with
  | nil => exact absurd hdigits Nat.toDigits_ne_nil
  | cons c rest =>
      have hc : c.isDigit = true := by
        apply Math.isDigit_of_mem_digitsOf (n := level)
        rw [hdigits]
        exact List.mem_cons_self
      simp only [Tag.opensHeading, headingElement, hdigits, hc]

/-!
## Blocks
-/

theorem intText_natCast (n : Nat) : Number.intText n = Number.digitsOf n := by
  rw [Number.intText, if_neg (by omega), Int.natAbs_natCast]

/-- The tags by which a block opens headings are those of the heading that it is. -/
theorem openedIn_block (defs : Link.Definitions) (previous next : Option Block) (n : Nat)
    (b : Block) :
    openedIn (b.fragments defs previous next (some n)) = (b.headings defs n).map Entry.tag := by
  have hlead := openedIn_leadFragments previous
  cases b with
  | heading level text =>
      have htag : (⟨headingElement level, anchorAttributes text (some n), ['>']⟩ : Tag) =
          Entry.tag ⟨anchor text (n + 1), renderParts (content defs false text), level⟩ := by
        rw [Entry.tag, intText_natCast]
        rfl
      show openedIn (leadFragments previous ++ elementFragments (headingElement level)
        (anchorAttributes text (some n)) (partFragments (content defs false text))) = _
      rw [openedIn_append, hlead, openedIn_elementFragments,
        openedIn_heading (opensHeading_headingElement level _ _), htag]
      rfl
  | start g =>
      show openedIn (leadFragments previous ++ .tag ⟨g.element, g.tagAttributes, ['>']⟩ ::
        (if staysOnLine g next then [] else [.text ['\n']])) = []
      have hname : Tag.opensHeading ⟨g.element, g.tagAttributes, ['>']⟩ = false := by
        cases g <;> rfl
      rw [openedIn_append, hlead, openedIn_tag hname]
      split
      · rfl
      · rfl
  | stop g => rfl
  | paragraph tight text =>
      have hinner := openedIn_partFragments (content defs (isTaskStart previous) text)
      show openedIn (if tight then _ else _) = []
      split
      · exact hinner
      · rw [openedIn_append, hlead, openedIn_elementFragments]
        rfl
  | cell header align text =>
      show openedIn (leadFragments previous ++ elementFragments
        (if header then "th".toList else "td".toList) align.tagAttributes
        (partFragments (content defs false text))) = []
      rw [openedIn_append, hlead, openedIn_elementFragments]
      cases header <;> rfl
  | rule =>
      show openedIn (leadFragments previous ++
        [.tag ⟨"hr".toList, [], " />".toList⟩, .text ['\n']]) = []
      rw [openedIn_append, hlead]
      rfl
  | code text | fence info text | markup text | definition label target => rfl

theorem count_block (defs : Link.Definitions) (previous next : Option Block) (n : Nat)
    (b : Block) :
    (renderBlock defs previous next (some n) b).count =
      some (n + (b.headings defs n).length) := by
  cases b with
  | heading level text => rfl
  | start _ | stop _ | paragraph _ _ | cell _ _ _ | rule | code _ | fence _ _ | markup _
  | definition _ _ => rfl

/-- A block notes the heading that it is if that is listed. -/
theorem entries_block (defs : Link.Definitions) (previous next : Option Block) (n : Nat)
    (b : Block) :
    entries (renderBlock defs previous next (some n) b).landmarks =
      (b.headings defs n).filter (isListed ·.level) := by
  cases b with
  | heading level text =>
      simp only [renderBlock, renderHeading, Block.headings, List.filter_cons, List.filter_nil]
      split
      · rfl
      · rfl
  | markup text =>
      simp only [renderBlock, Block.headings, List.filter_nil]
      split
      · rfl
      · rfl
  | start _ | stop _ | paragraph _ _ | cell _ _ _ | rule | code _ | fence _ _
  | definition _ _ => rfl

theorem openedIn_blockFragments (defs : Link.Definitions) (previous : Option Block) (n : Nat)
    (blocks : List Block) :
    openedIn (blockFragments defs previous (some n) blocks) =
      (blockHeadings defs n blocks).map Entry.tag := by
  induction blocks generalizing previous n with
  | nil => rfl
  | cons b rest ih =>
      rw [blockFragments, openedIn_append, openedIn_block, count_block, ih, blockHeadings,
        List.map_append]

theorem count_renderBlocks (defs : Link.Definitions) (previous : Option Block) (n : Nat)
    (blocks : List Block) :
    (renderBlocks defs previous (some n) blocks).count =
      some (n + (blockHeadings defs n blocks).length) := by
  induction blocks generalizing previous n with
  | nil => rfl
  | cons b rest ih =>
      rw [renderBlocks]
      simp only
      rw [count_block, ih, blockHeadings, List.length_append, Nat.add_assoc]

theorem entries_renderBlocks (defs : Link.Definitions) (previous : Option Block) (n : Nat)
    (blocks : List Block) :
    entries (renderBlocks defs previous (some n) blocks).landmarks =
      (blockHeadings defs n blocks).filter (isListed ·.level) := by
  induction blocks generalizing previous n with
  | nil => rfl
  | cons b rest ih =>
      rw [renderBlocks]
      simp only
      rw [entries_append, entries_block, count_block, ih, blockHeadings, List.filter_append]

theorem exists_anchorsFrom_blockHeadings (defs : Link.Definitions) (n : Nat)
    (blocks : List Block) :
    exists texts, (blockHeadings defs n blocks).map Entry.id = anchorsFrom n texts := by
  induction blocks generalizing n with
  | nil => exact ⟨[], rfl⟩
  | cons b rest ih =>
      rcases ih (n + (b.headings defs n).length) with ⟨texts, htexts⟩
      rw [blockHeadings, List.map_append, htexts]
      cases b with
      | heading level text => exact ⟨text :: texts, rfl⟩
      | start _ | stop _ | paragraph _ _ | cell _ _ _ | rule | code _ | fence _ _ | markup _
      | definition _ _ => exact ⟨texts, rfl⟩

/-!
## Texts
-/

/-- A rendering that counts headings opens the headings of the text and no others. -/
theorem openedIn_fragmentsFrom (n : Nat) (source : List Char) :
    openedIn (fragmentsFrom (some n) source) = (headingsFrom n source).map Entry.tag :=
  openedIn_blockFragments _ none n _

theorem count_renderFrom (n : Nat) (source : List Char) :
    (renderFrom (some n) source).count = some (n + (headingsFrom n source).length) :=
  count_renderBlocks _ none n _

/-- The headings that are noted are those of the listed levels. -/
theorem entries_renderFrom (n : Nat) (source : List Char) :
    entries (renderFrom (some n) source).landmarks =
      (headingsFrom n source).filter (isListed ·.level) :=
  entries_renderBlocks _ none n _

/-- The anchors of the headings of a text have the counts behind `n`, in order. -/
theorem exists_anchorsFrom_headingsFrom (n : Nat) (source : List Char) :
    exists texts, (headingsFrom n source).map Entry.id = anchorsFrom n texts :=
  exists_anchorsFrom_blockHeadings _ n _

end Prose
end Folio
