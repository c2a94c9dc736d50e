import Folio.Proofs.Html.Standing
import Folio.Proofs.Prose.Kind

/-!
# The shape of written tags

The names of the tags that the renderer writes hold no blanks and no angles, and the values
of their attributes are escaped, so what is written for each is a single tag
(`Tag.Shaped.isTag`), which tells its name (`Tag.Shaped.takeWhile_markup`).
-/

namespace Folio
namespace Prose

open Text Html

/-!
## Single tags
-/

/-- What ends a tag behind its attributes, without the closing angle. -/
def endings : List (List Char) :=
  ["", " /", " disabled", " disabled checked"].map String.toList

/-- Whether a name holds no blank, and nothing that an angle or a mark of a comment is made
of. -/
def isPlainName (name : List Char) : Bool :=
  name.all fun c => !" <>!-".toList.contains c

/-- What makes a tag a single tag when it is written. -/
structure Tag.Shaped (t : Tag) : Prop where
  name : isPlainName t.name = true
  attributes : ∀ a ∈ t.attributes, Inner a.markup
  ending : ∃ x ∈ endings, t.ending = x ++ ['>']

theorem notMem_of_isPlainName {name : List Char} (h : isPlainName name = true) {c : Char}
    (hc : c ∈ " <>!-".toList) : c ∉ name := by
  intro hmem
  have hnot := List.all_eq_true.1 h c hmem
  rw [List.contains_iff_mem.2 hc] at hnot
  cases hnot

theorem inner_of_isPlainName {name : List Char} (h : isPlainName name = true) : Inner name where
  flat := ⟨notMem_of_isPlainName h (by decide), notMem_of_isPlainName h (by decide)⟩
  head := fun hhead => notMem_of_isPlainName h (by decide) (List.mem_of_head? hhead)
  last := fun hlast => notMem_of_isPlainName h (by decide) (List.mem_of_getLast? hlast)

theorem inner_of_mem_endings {x : List Char} (h : x ∈ endings) : Inner x := by
  revert x
  decide

theorem Tag.Shaped.isTag {t : Tag} (h : t.Shaped) : IsTag t.markup := by
  rcases h.ending with ⟨x, hx, hending⟩
  have hname := inner_of_isPlainName h.name
  have hattributes := inner_flatMap h.attributes
  refine ⟨t.name ++ t.attributes.flatMap Attribute.markup ++ x, ?_, ?_⟩
  · rw [Tag.markup, hending]
    simp
  · exact (hname.append hattributes).append (inner_of_mem_endings hx)

/-- A tag that is written tells its name, which ends at the first blank or closing angle. -/
theorem Tag.Shaped.takeWhile_markup {t : Tag} (h : t.Shaped) :
    t.markup.tail.takeWhile (fun c => c != ' ' && c != '>') = t.name := by
  have hall : ∀ c ∈ t.name, (c != ' ' && c != '>') = true := by
    intro c hc
    rw [Bool.and_eq_true, bne_iff_ne, bne_iff_ne]
    constructor
    · rintro rfl
      exact notMem_of_isPlainName h.name (by decide) hc
    · rintro rfl
      exact notMem_of_isPlainName h.name (by decide) hc
  have hends : ∀ x ∈ endings, (x ++ ['>']).takeWhile (fun c => c != ' ' && c != '>') = [] := by
    decide
  have hrest : (t.attributes.flatMap Attribute.markup ++ t.ending).takeWhile
      (fun c => c != ' ' && c != '>') = [] := by
    cases t.attributes with
    | nil =>
        rcases h.ending with ⟨x, hx, hending⟩
        rw [hending]
        exact hends x hx
    | cons a others => cases a <;> rfl
  rw [Tag.markup, List.append_assoc, List.cons_append, List.tail_cons,
    List.takeWhile_append_of_pos hall, hrest, List.append_nil]

/-!
## Attributes
-/

theorem Attribute.inner_made {name written : List Char} (hname : Flat name)
    (hwritten : Flat written) : Inner (Attribute.made name written).markup where
  flat := by
    have hsign : Flat "=\"".toList := by decide
    have hend : Flat ['"'] := by decide
    have hstart : Flat [' '] := by decide
    exact (((hstart.append hname).append hsign).append hwritten).append hend
  head := by
    show some ' ' ≠ some '!'
    decide
  last := by
    show (' ' :: name ++ "=\"".toList ++ written ++ ['"']).getLast? ≠ some '-'
    rw [List.getLast?_concat]
    decide

theorem Attribute.inner_fixed {name : List Char} (h : Flat name) (value : List Char) :
    Inner (Attribute.fixed name value).markup :=
  inner_made h (flat_escapeQuoted value)

theorem Attribute.inner_taken {name : List Char} (h : Flat name) (value : List Char) :
    Inner (Attribute.taken name value).markup :=
  inner_made h (flat_escapeQuoted value)

theorem inner_titleAttribute (title : List Char) :
    ∀ a ∈ titleAttribute title, Inner a.markup := by
  unfold titleAttribute
  split
  · exact List.forall_mem_nil _
  · exact List.forall_mem_singleton.2 (Attribute.inner_taken (by decide) title)

theorem inner_tagAttributes_group (g : Group) :
    ∀ a ∈ g.tagAttributes, Inner a.markup := by
  have hclass : forall value, ∀ a ∈ [Attribute.fixed "class".toList value], Inner a.markup :=
    fun value => List.forall_mem_singleton.2 (Attribute.inner_fixed (by decide) value)
  cases g with
  | bullets tasks | item tasks =>
      cases tasks with
      | false => exact List.forall_mem_nil _
      | true => exact hclass _
  | numbers first tasks =>
      refine List.forall_mem_append.2 ⟨?_, ?_⟩
      · split
        · exact List.forall_mem_nil _
        · exact List.forall_mem_singleton.2 (Attribute.inner_fixed (by decide) _)
      · split
        · exact hclass _
        · exact List.forall_mem_nil _
  | quote | table | head | body | row => exact List.forall_mem_nil _

theorem inner_tagAttributes_align (align : Align) :
    ∀ a ∈ align.tagAttributes, Inner a.markup := by
  cases align with
  | plain => exact List.forall_mem_nil _
  | left | center | right =>
      exact List.forall_mem_singleton.2 (Attribute.inner_fixed (by decide) _)

theorem inner_languageAttributes (info : List Char) :
    ∀ a ∈ languageAttributes info, Inner a.markup := by
  unfold languageAttributes
  split
  · exact List.forall_mem_nil _
  · exact List.forall_mem_singleton.2 (Attribute.inner_taken (by decide) _)

theorem inner_anchorAttributes (source : List Char) (count : Count) :
    ∀ a ∈ anchorAttributes source count, Inner a.markup := by
  cases count with
  | none => exact List.forall_mem_nil _
  | some n => exact List.forall_mem_singleton.2 (Attribute.inner_fixed (by decide) _)

/-!
## The tags of the renderer
-/

theorem Tag.shaped {name : List Char} {attributes : List Attribute}
    (hname : isPlainName name = true) (hattributes : ∀ a ∈ attributes, Inner a.markup) :
    Tag.Shaped ⟨name, attributes, ['>']⟩ :=
  ⟨hname, hattributes, [], by decide, rfl⟩

theorem Tag.shaped_plain {name : List Char} (h : isPlainName name = true) :
    (Tag.plain name).Shaped :=
  Tag.shaped h (List.forall_mem_nil _)

theorem isPlainName_headingElement (level : Nat) : isPlainName (headingElement level) = true := by
  refine List.all_eq_true.2 (List.forall_mem_cons.2 ⟨by decide, ?_⟩)
  intro c hc
  have hdigit := Math.isDigit_of_mem_digitsOf hc
  rw [Bool.not_eq_true', Bool.eq_false_iff]
  intro hmem
  have hnone : " <>!-".toList.all (fun d => !d.isDigit) = true := by decide
  have hnot := List.all_eq_true.1 hnone c (List.contains_iff_mem.1 hmem)
  rw [hdigit] at hnot
  cases hnot

theorem shaped_boxTag (checked : Bool) : (boxTag checked).Shaped where
  name := by
    show isPlainName "input".toList = true
    decide
  attributes := List.forall_mem_cons.2
    ⟨Attribute.inner_made (by decide) (by decide),
      List.forall_mem_singleton.2 (Attribute.inner_made (by decide) (by decide))⟩
  ending := by
    cases checked with
    | false => exact ⟨" disabled".toList, by decide, rfl⟩
    | true => exact ⟨" disabled checked".toList, by decide, rfl⟩

/-- The tags of the renderer are single tags. -/
theorem Tag.Kind.shaped {t : Tag} (h : t.Kind) : t.Shaped := by
  cases h with
  | plain hname =>
      have hnames : ∀ name ∈ plainNames, isPlainName name = true := by decide
      exact Tag.shaped_plain (hnames _ hname)
  | anchor target =>
      refine Tag.shaped (by decide) (List.forall_mem_cons.2 ⟨?_, inner_titleAttribute _⟩)
      exact Attribute.inner_taken (by decide) _
  | image target alt =>
      refine ⟨rfl, ?_, " /".toList, by decide, rfl⟩
      refine List.forall_mem_cons.2 ⟨Attribute.inner_taken (by decide) _, ?_⟩
      exact List.forall_mem_cons.2
        ⟨Attribute.inner_taken (by decide) _, inner_titleAttribute _⟩
  | lineBreak => exact ⟨by decide, List.forall_mem_nil _, " /".toList, by decide, rfl⟩
  | box checked => exact shaped_boxTag checked
  | rule => exact ⟨by decide, List.forall_mem_nil _, " /".toList, by decide, rfl⟩
  | group g =>
      refine Tag.shaped ?_ (inner_tagAttributes_group g)
      cases g <;> rfl
  | groupEnd g =>
      apply Tag.shaped_plain
      cases g <;> rfl
  | cell header align =>
      refine Tag.shaped ?_ (inner_tagAttributes_align align)
      cases header <;> rfl
  | heading level source count =>
      exact Tag.shaped (isPlainName_headingElement level) (inner_anchorAttributes source count)
  | headingEnd level =>
      apply Tag.shaped_plain
      rw [isPlainName, List.all_cons]
      exact isPlainName_headingElement level
  | code info => exact Tag.shaped (by decide) (inner_languageAttributes info)

end Prose
end Folio
