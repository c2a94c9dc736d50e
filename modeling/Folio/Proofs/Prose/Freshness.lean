import Folio.Proofs.Heading.Anchor
import Folio.Proofs.Math.Escaping
import Folio.Proofs.Prose.Kind

/-!
# Tokens in tags

What the renderer makes for a tag by itself holds no token: not its name, not its style or
class, and not the anchor of a heading, which is lowered. So a tag holds a token exactly
when a value that it takes from the text does: `Tag.Fresh.occurs_markup`.
-/

namespace Folio
namespace Prose

open Text Html Math

/-!
## Fresh tags
-/

/-- What the renderer makes of an attribute holds no first letter of a token. -/
def Attribute.Fresh : Attribute -> Prop
  | .made name written => 'M' ∉ name ∧ 'M' ∉ written
  | .taken name _ => 'M' ∉ name

/-- What the renderer makes of a tag holds no first letter of a token. -/
structure Tag.Fresh (t : Tag) : Prop where
  name : 'M' ∉ t.name
  attributes : ∀ a ∈ t.attributes, a.Fresh
  ending : 'M' ∉ t.ending

/-- Escaping writes no capital letter that was not there. -/
theorem notMem_escaped {f : Char -> List Char} (hf : forall c, f c = [c] ∨ IsReference c (f c))
    {s : List Char} (h : 'M' ∉ s) : 'M' ∉ s.flatMap f := by
  intro hmem
  rcases List.mem_flatMap.1 hmem with ⟨c, hc, hM⟩
  rcases hf c with hsame | href
  · rw [hsame, List.mem_singleton] at hM
    exact h (hM ▸ hc)
  · exact List.any_eq_false.1 href.isUpper 'M' hM rfl

theorem notMem_escapeQuoted {s : List Char} (h : 'M' ∉ s) : 'M' ∉ escapeQuoted s :=
  notMem_escaped quotedChar_eq_or h

theorem notMem_escapeAttribute {s : List Char} (h : 'M' ∉ s) : 'M' ∉ escapeAttribute s :=
  notMem_escaped attributeChar_eq_or h

theorem Attribute.fresh_fixed {name value : List Char} (hname : 'M' ∉ name)
    (hvalue : 'M' ∉ value) : (Attribute.fixed name value).Fresh :=
  ⟨hname, notMem_escapeQuoted hvalue⟩

theorem Attribute.fresh_taken {name : List Char} (h : 'M' ∉ name) (value : List Char) :
    (Attribute.taken name value).Fresh :=
  h

theorem Tag.fresh {name ending : List Char} {attributes : List Attribute} (hname : 'M' ∉ name)
    (hattributes : ∀ a ∈ attributes, a.Fresh) (hending : 'M' ∉ ending) :
    Tag.Fresh ⟨name, attributes, ending⟩ :=
  ⟨hname, hattributes, hending⟩

theorem Tag.fresh_plain {name : List Char} (h : 'M' ∉ name) : (Tag.plain name).Fresh :=
  Tag.fresh h (List.forall_mem_nil _) (by decide)

/-- Attributes hold a token exactly when a value that they take from the text does. -/
theorem occurs_attributes {attributes : List Attribute} (h : ∀ a ∈ attributes, a.Fresh)
    {ending : List Char} (hending : 'M' ∉ ending) (n i : Nat) :
    occurs (tokenOf (stemOf n) i) (attributes.flatMap Attribute.markup ++ ending) =
      (attributes.filterMap Attribute.taken?).any (occurs (tokenOf (stemOf n) i)) := by
  induction attributes with
  | nil => exact not_occurs_tokenOf_of_notMem hending n i
  | cons a rest ih =>
      have hrest := ih fun b hb => h b (List.mem_cons_of_mem a hb)
      have ha := h a List.mem_cons_self
      have hquote : '"' ∉ tokenOf (stemOf n) i := notMem_tokenOf (by decide) n i
      rw [List.flatMap_cons, List.append_assoc]
      cases a with
      | made name written =>
          have hfront : 'M' ∉ ' ' :: name ++ "=\"".toList ++ written ++ ['"'] := by
            have hname := ha.1
            have hwritten := ha.2
            simp [hname, hwritten]
          show occurs _ ((' ' :: name ++ "=\"".toList ++ written ++ ['"']) ++ _) = _
          rw [occurs_tokenOf_append hfront, hrest]
          rfl
      | taken name value =>
          have hfront : 'M' ∉ ' ' :: name ++ "=\"".toList := by
            have hname : 'M' ∉ name := ha
            simp [hname]
          show occurs _ ((' ' :: name ++ "=\"".toList ++ escapeQuoted value ++ ['"']) ++ _) = _
          rw [List.append_assoc, List.append_assoc (' ' :: name ++ "=\"".toList),
            occurs_tokenOf_append hfront, List.singleton_append,
            occurs_append_cons (tokenOf_ne_nil _ i) hquote, occurs_tokenOf_escapeQuoted, hrest]
          rfl

/-- A tag holds a token exactly when a value that it takes from the text does. -/
theorem Tag.Fresh.occurs_markup {t : Tag} (h : t.Fresh) (n i : Nat) :
    occurs (tokenOf (stemOf n) i) t.markup = t.taken.any (occurs (tokenOf (stemOf n) i)) := by
  have hfront : 'M' ∉ '<' :: t.name := by
    have hname := h.name
    simp [hname]
  rw [Tag.markup, List.append_assoc, occurs_tokenOf_append hfront]
  exact occurs_attributes h.attributes h.ending n i

/-!
## The tags of the renderer
-/

/-- All tags among fragments are fresh. -/
def AllFresh (fragments : List Fragment) : Prop :=
  ∀ t ∈ tagsOf fragments, t.Fresh

theorem fresh_titleAttribute (title : List Char) : ∀ a ∈ titleAttribute title, a.Fresh := by
  unfold titleAttribute
  split
  · exact List.forall_mem_nil _
  · exact List.forall_mem_singleton.2 (Attribute.fresh_taken (by decide) title)

theorem fresh_anchorTag (target : Link.Target) : (anchorTag target).Fresh := by
  refine Tag.fresh (by decide) ?_ (by decide)
  exact List.forall_mem_cons.2
    ⟨Attribute.fresh_taken (by decide) target.href, fresh_titleAttribute target.title⟩

theorem fresh_imageTag (target : Link.Target) (alt : List Char) : (imageTag target alt).Fresh := by
  refine Tag.fresh (by decide) ?_ (by decide)
  refine List.forall_mem_cons.2 ⟨Attribute.fresh_taken (by decide) target.href, ?_⟩
  exact List.forall_mem_cons.2
    ⟨Attribute.fresh_taken (by decide) alt, fresh_titleAttribute target.title⟩

theorem fresh_breakTag : breakTag.Fresh :=
  Tag.fresh (by decide) (List.forall_mem_nil _) (by decide)

theorem fresh_boxTag (checked : Bool) : (boxTag checked).Fresh := by
  refine Tag.fresh (by decide) ?_ (by cases checked <;> decide)
  exact List.forall_mem_cons.2
    ⟨⟨by decide, by decide⟩, List.forall_mem_singleton.2 ⟨by decide, by decide⟩⟩

theorem notMem_digitsOf (n : Nat) : 'M' ∉ Number.digitsOf n := by
  intro h
  exact absurd (isDigit_of_mem_digitsOf h) (by decide)

theorem fresh_tagAttributes_group (g : Group) : ∀ a ∈ g.tagAttributes, a.Fresh := by
  have hclass : (Attribute.fixed "class".toList "contains-task-list".toList).Fresh :=
    Attribute.fresh_fixed (by decide) (by decide)
  cases g with
  | bullets tasks =>
      cases tasks with
      | false => exact List.forall_mem_nil _
      | true => exact List.forall_mem_singleton.2 hclass
  | numbers first tasks =>
      intro a ha
      rcases List.mem_append.1 ha with ha | ha
      · split at ha
        · cases ha
        · rw [List.mem_singleton.1 ha]
          exact Attribute.fresh_fixed (by decide) (notMem_digitsOf first)
      · split at ha
        · rw [List.mem_singleton.1 ha]
          exact hclass
        · cases ha
  | item task =>
      cases task with
      | false => exact List.forall_mem_nil _
      | true =>
          exact List.forall_mem_singleton.2 (Attribute.fresh_fixed (by decide) (by decide))
  | quote | table | head | body | row => exact List.forall_mem_nil _

theorem notMem_element (g : Group) : 'M' ∉ g.element := by
  cases g with
  | quote => exact (by decide : 'M' ∉ "blockquote".toList)
  | bullets tasks => exact (by decide : 'M' ∉ "ul".toList)
  | numbers first tasks => exact (by decide : 'M' ∉ "ol".toList)
  | item task => exact (by decide : 'M' ∉ "li".toList)
  | table | head | body | row => decide

theorem fresh_tagAttributes_align (a : Align) : ∀ b ∈ a.tagAttributes, b.Fresh := by
  cases a with
  | plain => exact List.forall_mem_nil _
  | left | center | right =>
      exact List.forall_mem_singleton.2 (Attribute.fresh_fixed (by decide) (by decide))

theorem fresh_languageAttributes (info : List Char) : ∀ a ∈ languageAttributes info, a.Fresh := by
  unfold languageAttributes
  cases runsWithout isProseBlank (unescape info) with
  | nil => exact List.forall_mem_nil _
  | cons first rest => exact List.forall_mem_singleton.2 (Attribute.fresh_taken (by decide) _)

theorem notMem_anchor (text : List Char) (count : Nat) : 'M' ∉ Heading.anchor text count := by
  intro h
  exact absurd (Heading.isUpper_of_mem_anchor h) (by decide)

theorem fresh_anchorAttributes (source : List Char) (count : Count) :
    ∀ a ∈ anchorAttributes source count, a.Fresh := by
  cases count with
  | none => exact List.forall_mem_nil _
  | some n =>
      exact List.forall_mem_singleton.2
        (Attribute.fresh_fixed (by decide) (notMem_anchor source (n + 1)))

theorem notMem_headingElement (level : Nat) : 'M' ∉ headingElement level := by
  simp [headingElement, notMem_digitsOf level]

theorem notMem_of_mem_plainNames : ∀ name ∈ plainNames, 'M' ∉ name := by
  decide

/-- The tags of the renderer are fresh. -/
theorem Tag.Kind.fresh {t : Tag} (h : t.Kind) : t.Fresh := by
  cases h with
  | plain hname => exact Tag.fresh_plain (notMem_of_mem_plainNames _ hname)
  | anchor target => exact fresh_anchorTag target
  | image target alt => exact fresh_imageTag target alt
  | lineBreak => exact fresh_breakTag
  | box checked => exact fresh_boxTag checked
  | rule => exact Tag.fresh (by decide) (List.forall_mem_nil _) (by decide)
  | group g => exact Tag.fresh (notMem_element g) (fresh_tagAttributes_group g) (by decide)
  | groupEnd g =>
      apply Tag.fresh_plain
      simp [notMem_element g]
  | cell header align =>
      refine Tag.fresh ?_ (fresh_tagAttributes_align align) (by decide)
      cases header <;> decide
  | heading level source count =>
      exact Tag.fresh (notMem_headingElement level) (fresh_anchorAttributes source count)
        (by decide)
  | headingEnd level =>
      apply Tag.fresh_plain
      simp [notMem_headingElement level]
  | code info => exact Tag.fresh (by decide) (fresh_languageAttributes info) (by decide)

/-- Every tag that a rendering writes is fresh. -/
theorem allFresh_fragmentsFrom (count : Count) (source : List Char) :
    AllFresh (fragmentsFrom count source) :=
  fun t ht => (kind_fragmentsFrom count source t ht).fresh

end Prose
end Folio
