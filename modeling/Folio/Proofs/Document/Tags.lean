import Folio.Document.Rendered
import Folio.Proofs.Heading.Listed
import Folio.Proofs.Math.Substitution
import Folio.Proofs.Prose.Freshness

/-!
# Math in tags

The string in which math is put back is the table of contents and the prose. It holds the
tags that were written for them, and those that were written ahead for the bodies of
containers. A token stands in such a tag exactly when it stands in a value that the tag
takes from the text: the address or title of a link or an image, the description of an
image, or the language of a fence.
-/

namespace Folio
namespace Container

/-- The bodies that are rendered ahead, each with the state in which it is rendered. -/
def visits {σ : Type} (render : List Char -> σ -> List Char × σ) :
    List Region -> σ -> List (List Char × σ)
  | [], _ => []
  | .text _ :: rest, s => visits render rest s
  | .unclosed _ :: rest, s => visits render rest s
  | .closed tag body _ :: rest, s =>
      if tag.isDiv then (body, s) :: visits render rest (render body s).2
      else visits render rest s

theorem map_fst_visits {σ : Type} (render : List Char -> σ -> List Char × σ)
    (source : List Char) (s : σ) :
    (visits render (regions source) s).map Prod.fst = bodies source := by
  unfold bodies
  induction regions source generalizing s with
  | nil => rfl
  | cons region rest ih =>
      cases region with
      | text _ | unclosed _ => exact ih s
      | closed tag body closing =>
          simp only [visits, List.filterMap_cons]
          split
          · rw [List.map_cons, ih]
          · exact ih s

end Container

namespace Heading

open Prose

/-!
## The table of contents
-/

def itemFragments (e : Entry) : List Fragment :=
  [.tag ⟨"li".toList, [.made "class".toList ("toc-level-".toList ++ Number.intText e.level)],
      ['>']⟩,
    .tag ⟨['a'], [.made "href".toList ('#' :: Html.escapeAttribute e.id),
      .made "data-heading-id".toList (Html.escapeAttribute e.id)], ['>']⟩,
    .passed e.text, .tag (.plain "/a".toList), .tag (.plain "/li".toList)]

def lineFragments : List Entry -> List Fragment
  | [] => []
  | [e] => itemFragments e
  | e :: rest => itemFragments e ++ .text ['\n'] :: lineFragments rest

def contentsFragments (entries : List Entry) (enabled : Bool) (direction : List Char) :
    List Fragment :=
  if !enabled || entries.isEmpty then
    []
  else
    .tag ⟨"nav".toList, [.made "class".toList "doc-toc".toList], ['>']⟩ :: .text ['\n'] ::
      .tag ⟨"div".toList, [.made "class".toList "toc-title".toList], ['>']⟩ ::
      .text (contentsTitle direction) :: .tag (.plain "/div".toList) :: .text ['\n'] ::
      .tag (.plain "ul".toList) :: .text ['\n'] :: lineFragments entries ++
      [.text ['\n'], .tag (.plain "/ul".toList), .text ['\n'], .tag (.plain "/nav".toList),
        .text ['\n']]

theorem writeAll_itemFragments (e : Entry) : writeAll (itemFragments e) = contentsItem e := by
  show _ = "<li class=\"toc-level-".toList ++ Number.intText e.level ++ "\"><a href=\"#".toList ++
    Html.escapeAttribute e.id ++ "\" data-heading-id=\"".toList ++ Html.escapeAttribute e.id ++
    "\">".toList ++ e.text ++ "</a></li>".toList
  simp [itemFragments, markup_tag, Attribute.markup]

theorem writeAll_lineFragments (entries : List Entry) :
    writeAll (lineFragments entries) = Text.joinWith ['\n'] (entries.map contentsItem) := by
  induction entries with
  | nil => rfl
  | cons e rest ih =>
      cases rest with
      | nil => exact writeAll_itemFragments e
      | cons d rest =>
          rw [lineFragments, writeAll_append, writeAll_cons, writeAll_itemFragments, ih]
          · simp [Text.joinWith]
          · exact List.cons_ne_nil d rest

theorem writeAll_contentsFragments (entries : List Entry) (enabled : Bool)
    (direction : List Char) :
    writeAll (contentsFragments entries enabled direction) =
      contents entries enabled direction := by
  have htitle : Html.escapeQuoted (contentsTitle direction) = contentsTitle direction := by
    unfold contentsTitle
    split
    · decide
    · decide
  unfold contentsFragments
  show _ = if !enabled || entries.isEmpty then [] else
    "<nav class=\"doc-toc\">\n<div class=\"toc-title\">".toList ++ contentsTitle direction ++
      "</div>\n<ul>\n".toList ++ Text.joinWith ['\n'] (entries.map contentsItem) ++
      "\n</ul>\n</nav>\n".toList
  split
  · rfl
  · simp [markup_tag, Attribute.markup, htitle, writeAll_lineFragments]

/-- The names of the tags without attributes in the table of contents. -/
def contentsNames : List (List Char) :=
  ["ul", "/ul", "/a", "/li", "/div", "/nav"].map String.toList

/-- The tags of the table of contents. -/
inductive ContentsTag (entries : List Entry) : Tag -> Prop where
  | plain {name : List Char} (h : name ∈ contentsNames) : ContentsTag entries (.plain name)
  | nav : ContentsTag entries ⟨"nav".toList, [.made "class".toList "doc-toc".toList], ['>']⟩
  | title : ContentsTag entries ⟨"div".toList, [.made "class".toList "toc-title".toList], ['>']⟩
  | item {e : Entry} (h : e ∈ entries) : ContentsTag entries
      ⟨"li".toList, [.made "class".toList ("toc-level-".toList ++ Number.intText e.level)], ['>']⟩
  | link {e : Entry} (h : e ∈ entries) : ContentsTag entries
      ⟨['a'], [.made "href".toList ('#' :: Html.escapeAttribute e.id),
        .made "data-heading-id".toList (Html.escapeAttribute e.id)], ['>']⟩

theorem contentsTag_itemFragments {entries : List Entry} {e : Entry} (h : e ∈ entries) :
    AllTags (ContentsTag entries) (itemFragments e) :=
  ((((allTags_nil.tag (.plain (by decide))).tag (.plain (by decide))).passed e.text).tag
    (.link h)).tag (.item h)

theorem contentsTag_lineFragments {entries lines : List Entry} (h : ∀ e ∈ lines, e ∈ entries) :
    AllTags (ContentsTag entries) (lineFragments lines) := by
  induction lines with
  | nil => exact allTags_nil
  | cons e rest ih =>
      have he := contentsTag_itemFragments (h e List.mem_cons_self)
      have hrest := ih fun d hd => h d (List.mem_cons_of_mem e hd)
      cases rest with
      | nil => exact he
      | cons d rest => exact he.append (hrest.text ['\n'])

theorem contentsTag_contentsFragments (entries : List Entry) (enabled : Bool)
    (direction : List Char) :
    AllTags (ContentsTag entries) (contentsFragments entries enabled direction) := by
  have hend : AllTags (ContentsTag entries) [.text ['\n'], .tag (.plain "/ul".toList),
      .text ['\n'], .tag (.plain "/nav".toList), .text ['\n']] :=
    ((((allTags_nil.text ['\n']).tag (.plain (by decide))).text ['\n']).tag
      (.plain (by decide))).text ['\n']
  have hlines := (contentsTag_lineFragments fun _ he => he).append hend
  unfold contentsFragments
  split
  · exact allTags_nil
  · refine AllTags.tag .nav (AllTags.text (AllTags.tag .title (AllTags.text ?_ _)) ['\n'])
    exact (((hlines.text ['\n']).tag (.plain (by decide))).text ['\n']).tag (.plain (by decide))

theorem notMem_intText (i : Int) : 'M' ∉ Number.intText i := by
  unfold Number.intText
  split
  · intro h
    rcases List.mem_cons.1 h with h | h
    · exact absurd h (by decide)
    · exact notMem_digitsOf i.natAbs h
  · exact notMem_digitsOf i.natAbs

theorem ContentsTag.fresh {entries : List Entry} (hentries : ∀ e ∈ entries, e.Anchored) {t : Tag}
    (h : ContentsTag entries t) : t.Fresh := by
  have hid : ∀ e ∈ entries, 'M' ∉ Html.escapeAttribute e.id := by
    intro e he
    rcases hentries e he with ⟨text, count, hid⟩
    rw [hid]
    exact notMem_escapeAttribute (notMem_anchor text count)
  cases h with
  | plain hname =>
      have hnames : ∀ name ∈ contentsNames, 'M' ∉ name := by decide
      exact Tag.fresh_plain (hnames _ hname)
  | nav | title =>
      exact Tag.fresh (by decide) (List.forall_mem_singleton.2 ⟨by decide, by decide⟩) (by decide)
  | @item e he =>
      have hlevel : 'M' ∉ "toc-level-".toList ++ Number.intText e.level := by
        simp [notMem_intText]
      exact Tag.fresh (by decide) (List.forall_mem_singleton.2 ⟨by decide, hlevel⟩) (by decide)
  | @link e he =>
      have hhref : 'M' ∉ '#' :: Html.escapeAttribute e.id := by
        simp [hid e he]
      refine Tag.fresh (by decide) (List.forall_mem_cons.2 ⟨⟨by decide, hhref⟩, ?_⟩) (by decide)
      exact List.forall_mem_singleton.2 ⟨by decide, hid e he⟩

theorem allFresh_contentsFragments {entries : List Entry} (h : ∀ e ∈ entries, e.Anchored)
    (enabled : Bool) (direction : List Char) :
    AllFresh (contentsFragments entries enabled direction) :=
  fun t ht => (contentsTag_contentsFragments entries enabled direction t ht).fresh h

end Heading

namespace Document

open Number Prose Math Text

variable {α : Type} [Scalar α]

/-!
## The string in which math is put back
-/

/-- The text of a source after its containers were rendered, and the headings so far. -/
def preparedText (source : List Char) : List Char × Heading.Anchors :=
  Container.prepareWith renderBody (extract source).text Heading.Anchors.start

/-- The fragments of the contents and the prose of a document. -/
def fragments (s : Settings α) (source : List Char) : List Fragment :=
  Heading.contentsFragments (prepare source).headings s.showsToc s.direction.name ++
    fragmentsFrom (some (preparedText source).2.count) (preparedText source).1

/-- The fragments that are written ahead for the bodies of containers. -/
def bodyFragments (source : List Char) : List (List Fragment) :=
  (Container.visits renderBody (Container.regions (extract source).text)
    Heading.Anchors.start).map fun visit => fragmentsFrom (some visit.2.count) visit.1

/-- Whether a tag that was written ahead stands in a text. Blank lines in it are sealed
before the text around the container is read. -/
def isIn (text : List Char) (t : Tag) : Bool :=
  occurs t.markup text || occurs (normalizeLines (Container.sealed t.markup)) text

/-- The tags that the renderer and the table of contents wrote and that stand in the string
in which math is put back. -/
def tags (s : Settings α) (source : List Char) : List Tag :=
  tagsOf (fragments s source) ++
    ((bodyFragments source).flatMap tagsOf).filter
      (isIn (contentsOf (prepare source) s ++ (prepare source).markup))

theorem markup_prepare (source : List Char) : (prepare source).markup =
    (renderFrom (some (preparedText source).2.count) (preparedText source).1).markup := by
  have htext : forall text a, (renderText text a).1 = (renderFrom (some a.count) text).markup := by
    intro text a
    simp only [renderText]
  rw [← htext]
  simp only [prepare, renderDocument, preparedText]

theorem writeAll_fragments (s : Settings α) (source : List Char) :
    writeAll (fragments s source) = contentsOf (prepare source) s ++ (prepare source).markup := by
  rw [fragments, writeAll_append, Heading.writeAll_contentsFragments, writeAll_fragmentsFrom,
    markup_prepare, contentsOf]

theorem allFresh_fragments (s : Settings α) (source : List Char) :
    AllFresh (fragments s source) := by
  refine AllTags.append ?_ (allFresh_fragmentsFrom _ _)
  exact Heading.allFresh_contentsFragments (fun e => anchored_of_mem_listed) _ _

theorem fresh_of_mem_tags {s : Settings α} {source : List Char} {t : Tag}
    (h : t ∈ tags s source) : t.Fresh := by
  rcases List.mem_append.1 h with h | h
  · exact allFresh_fragments s source t h
  · rcases List.mem_flatMap.1 (List.mem_filter.1 h).1 with ⟨body, hbody, ht⟩
    rcases List.mem_map.1 hbody with ⟨visit, -, rfl⟩
    exact allFresh_fragmentsFrom _ _ t ht

/-- A fresh tag holds a token of a source exactly when a value that it takes from the text
does. -/
theorem unresolved_markup_iff {t : Tag} (h : t.Fresh) (source : List Char) :
    unresolved (extract source).segments t.markup = [] ↔
      ∀ v ∈ t.taken, unresolved (extract source).segments v = [] := by
  rcases exists_recoverable_extract source with ⟨n, hsegments⟩
  have hone : ∀ x ∈ (extract source).segments,
      (occurs x.token t.markup = false ↔ ∀ v ∈ t.taken, occurs x.token v = false) := by
    intro x hx
    rcases hsegments.numbered x hx with ⟨i, hi⟩
    rw [hi, h.occurs_markup, List.any_eq_false]
    simp only [Bool.not_eq_true]
  simp only [unresolved_eq_nil_iff]
  constructor
  · intro hfree v hv x hx
    exact (hone x hx).1 (hfree x hx) v hv
  · intro hfree x hx
    exact (hone x hx).2 fun v hv => hfree v hv x hx

/-- The string in which math is put back consists of text, tags and markup that is passed
on. No token stands in a tag of it exactly when none stands in a value that such a tag takes
from the text: the address or title of a link or an image, the description of an image, or
the language of a fence. -/
theorem tags_resolved_iff (s : Settings α) (source : List Char) :
    writeAll (fragments s source) = contentsOf (prepare source) s ++ (prepare source).markup ∧
      ((∀ t ∈ tags s source, unresolved (extract source).segments t.markup = []) ↔
        ∀ t ∈ tags s source, ∀ v ∈ t.taken, unresolved (extract source).segments v = []) := by
  refine ⟨writeAll_fragments s source, ?_⟩
  constructor
  · intro h t ht
    exact (unresolved_markup_iff (fresh_of_mem_tags ht) source).1 (h t ht)
  · intro h t ht
    exact (unresolved_markup_iff (fresh_of_mem_tags ht) source).2 (h t ht)

/-- Math in the description of an image stands in its tag. -/
theorem tags_unresolved_of_description :
    ¬ ∀ t ∈ tags (Settings.default : Settings Float) "![$x$](a.png)".toList,
      unresolved (extract "![$x$](a.png)".toList).segments t.markup = [] := by
  decide +kernel

end Document
end Folio
