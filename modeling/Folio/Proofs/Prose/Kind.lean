import Folio.Proofs.Prose.Fragment

/-!
# The tags of the renderer

The renderer writes tags of a few kinds only (`kind_fragmentsFrom`), so what holds of each
kind holds of all that it writes.
-/

namespace Folio
namespace Prose

open Text

/-!
## Kinds of tags
-/

/-- The names of the tags without attributes. -/
def plainNames : List (List Char) :=
  ["p", "/p", "/th", "/td", "pre", "/pre", "code", "/code", "/a", "em", "/em", "strong",
    "/strong", "s", "/s"].map String.toList

/-- The tags that the renderer writes. -/
inductive Tag.Kind : Tag -> Prop where
  | plain {name : List Char} (h : name ∈ plainNames) : Kind (.plain name)
  | anchor (target : Link.Target) : Kind (anchorTag target)
  | image (target : Link.Target) (alt : List Char) : Kind (imageTag target alt)
  | lineBreak : Kind breakTag
  | box (checked : Bool) : Kind (boxTag checked)
  | rule : Kind ⟨"hr".toList, [], " />".toList⟩
  | group (g : Group) : Kind ⟨g.element, g.tagAttributes, ['>']⟩
  | groupEnd (g : Group) : Kind (.plain ('/' :: g.element))
  | cell (header : Bool) (align : Align) :
      Kind ⟨if header then "th".toList else "td".toList, align.tagAttributes, ['>']⟩
  | heading (level : Nat) (source : List Char) (count : Count) :
      Kind ⟨headingElement level, anchorAttributes source count, ['>']⟩
  | headingEnd (level : Nat) : Kind (.plain ('/' :: headingElement level))
  | code (info : List Char) : Kind ⟨"code".toList, languageAttributes info, ['>']⟩

/-- Whether all tags among fragments have a property. -/
def AllTags (P : Tag -> Prop) (fragments : List Fragment) : Prop :=
  ∀ t ∈ tagsOf fragments, P t

section AllTags

variable {P : Tag -> Prop} {rest : List Fragment}

theorem allTags_nil : AllTags P [] := by
  intro t ht
  cases ht

theorem AllTags.append {a b : List Fragment} (ha : AllTags P a) (hb : AllTags P b) :
    AllTags P (a ++ b) := by
  intro t ht
  rw [tagsOf, List.filterMap_append] at ht
  rcases List.mem_append.1 ht with ht | ht
  · exact ha t ht
  · exact hb t ht

theorem AllTags.tag {t : Tag} (ht : P t) (h : AllTags P rest) : AllTags P (.tag t :: rest) := by
  intro u hu
  rcases List.mem_cons.1 hu with rfl | hu
  · exact ht
  · exact h u hu

theorem AllTags.text (h : AllTags P rest) (s : List Char) : AllTags P (.text s :: rest) :=
  h

theorem AllTags.passed (h : AllTags P rest) (s : List Char) : AllTags P (.passed s :: rest) :=
  h

end AllTags

theorem kind_fragments (part : Inline) : AllTags Tag.Kind part.fragments := by
  cases part with
  | text s | literal s => exact allTags_nil.text s
  | softBreak | hardBreak => exact (allTags_nil.text ['\n']).tag .lineBreak
  | code s =>
      exact ((allTags_nil.tag (.plain (by decide))).text s).tag (.plain (by decide))
  | markup s =>
      show AllTags Tag.Kind (if occurs boxClass s then _ else _)
      split
      · exact allTags_nil.tag (.box _)
      · exact allTags_nil.passed s
  | start stress =>
      cases stress with
      | emphasis | strong | strike => exact allTags_nil.tag (.plain (by decide))
  | stop stress =>
      cases stress with
      | emphasis | strong | strike => exact allTags_nil.tag (.plain (by decide))
  | anchor target => exact allTags_nil.tag (.anchor target)
  | endAnchor => exact allTags_nil.tag (.plain (by decide))
  | image target alt => exact allTags_nil.tag (.image target alt)
  | box checked => exact allTags_nil.tag (.box checked)

theorem kind_partFragments (parts : List Inline) : AllTags Tag.Kind (partFragments parts) := by
  induction parts with
  | nil => exact allTags_nil
  | cons part rest ih => exact (kind_fragments part).append ih

theorem kind_leadFragments (previous : Option Block) :
    AllTags Tag.Kind (leadFragments previous) := by
  unfold leadFragments
  split
  · exact allTags_nil.text ['\n']
  · exact allTags_nil

theorem kind_elementFragments {name : List Char} {attributes : List Attribute}
    {inner : List Fragment} (hopen : Tag.Kind ⟨name, attributes, ['>']⟩)
    (hinner : AllTags Tag.Kind inner) (hclose : Tag.Kind (.plain ('/' :: name))) :
    AllTags Tag.Kind (elementFragments name attributes inner) :=
  (hinner.append ((allTags_nil.text ['\n']).tag hclose)).tag hopen

theorem kind_codeFragments {attributes : List Attribute}
    (hopen : Tag.Kind ⟨"code".toList, attributes, ['>']⟩) (text : List Char) :
    AllTags Tag.Kind (codeFragments attributes text) := by
  have hend : AllTags Tag.Kind
      [.tag (.plain "/code".toList), .tag (.plain "/pre".toList), .text ['\n']] :=
    ((allTags_nil.text ['\n']).tag (.plain (by decide))).tag (.plain (by decide))
  exact ((hend.text text).tag hopen).tag (.plain (by decide))

/-- The tags that are written for a block are of the kinds of the renderer. -/
theorem kind_block (defs : Link.Definitions) (previous next : Option Block) (count : Count)
    (b : Block) : AllTags Tag.Kind (b.fragments defs previous next count) := by
  have hlead := kind_leadFragments previous
  cases b with
  | start g =>
      refine hlead.append (AllTags.tag (.group g) ?_)
      split
      · exact allTags_nil
      · exact allTags_nil.text ['\n']
  | stop g => exact (allTags_nil.text ['\n']).tag (.groupEnd g)
  | paragraph tight text =>
      have hinner := kind_partFragments (content defs (isTaskStart previous) text)
      show AllTags Tag.Kind (if tight then _ else _)
      split
      · exact hinner
      · exact hlead.append
          (kind_elementFragments (.plain (by decide)) hinner (.plain (by decide)))
  | heading level text =>
      exact hlead.append (kind_elementFragments (.heading level text count)
        (kind_partFragments (content defs false text)) (.headingEnd level))
  | cell header align text =>
      refine hlead.append (kind_elementFragments (.cell header align)
        (kind_partFragments (content defs false text)) (.plain ?_))
      cases header <;> decide
  | rule => exact hlead.append ((allTags_nil.text ['\n']).tag .rule)
  | code text => exact kind_codeFragments (.plain (by decide)) text
  | fence info text => exact kind_codeFragments (.code info) text
  | markup text => exact allTags_nil.passed text
  | definition label target => exact allTags_nil

theorem kind_blockFragments (defs : Link.Definitions) (previous : Option Block)
    (count : Count) (blocks : List Block) :
    AllTags Tag.Kind (blockFragments defs previous count blocks) := by
  induction blocks generalizing previous count with
  | nil => exact allTags_nil
  | cons b rest ih => exact (kind_block defs previous rest.head? count b).append (ih _ _)

/-- Every tag that a rendering writes is of one of the kinds. -/
theorem kind_fragmentsFrom (count : Count) (source : List Char) :
    AllTags Tag.Kind (fragmentsFrom count source) :=
  kind_blockFragments _ none count _

end Prose
end Folio
