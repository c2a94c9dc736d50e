import Folio.Proofs.Document.Contents
import Folio.Proofs.Document.Standing
import Folio.Proofs.Heading.Titles
import Folio.Proofs.Math.Linked
import Folio.Proofs.Prose.Links

/-!
# Links in the table of contents

The table of contents in a body is that of the headings of the document, with their math put
back (`body_eq_contents`). Each line of it is one link, with the text of a heading in it; where
the text holds links itself, they stand within that link (`links_of_contents`).
-/

namespace Folio

open Text Html

namespace Heading

open Prose Math

/-! ## The tags of the table -/

theorem solid_plain {name : List Char} {c : Char} {front : List Char} (hname : name = front ++ [c])
    (hc : c ≠ 'p') (hopens : ¬ Meets ['/', 'p', '>'] (name ++ ['>']))
    (hfree : forall n i, occurs (tokenOf (stemOf n) i) (Tag.plain name).markup = false) :
    Solid (Tag.plain name).markup where
  opens := ⟨name ++ ['>'], by simp [Tag.plain, Tag.markup], hopens⟩
  closes := ⟨'<' :: front, c, by simp [Tag.plain, Tag.markup, hname], hc⟩
  free := hfree

theorem solid_made {c : Char} {name key value : List Char} (attributes : List Attribute)
    (hc : c ≠ '/')
    (hfree : forall n i, occurs (tokenOf (stemOf n) i)
      (Tag.mk (c :: name) (attributes ++ [.made key value]) ['>']).markup = false) :
    Solid (Tag.mk (c :: name) (attributes ++ [.made key value]) ['>']).markup where
  opens := ⟨_, rfl, not_meets_closing hc⟩
  closes := by
    refine ⟨'<' :: c :: name ++ attributes.flatMap Attribute.markup ++
      (' ' :: key ++ "=\"".toList ++ value), '"', ?_, by decide⟩
    simp [Tag.markup, Attribute.markup]
  free := hfree

theorem ContentsTag.taken {entries : List Entry} {t : Tag} (h : ContentsTag entries t) :
    t.taken = [] := by
  cases h <;> rfl

theorem ContentsTag.solid {entries : List Entry} (hentries : ∀ e ∈ entries, e.Anchored) {t : Tag}
    (h : ContentsTag entries t) : Solid t.markup := by
  have hfree : forall n i, occurs (tokenOf (stemOf n) i) t.markup = false := by
    intro n i
    rw [(h.fresh hentries).occurs_markup, h.taken]
    rfl
  cases h with
  | @plain name hname =>
      have hnames : ∀ name ∈ contentsNames, name ≠ [] ∧ name.getLast? ≠ some 'p' ∧
          ¬ Meets ['/', 'p', '>'] (name ++ ['>']) := by
        decide
      rcases hnames name hname with ⟨hne, hlast, hopens⟩
      rw [List.getLast?_eq_getLast_of_ne_nil hne] at hlast
      exact solid_plain (List.dropLast_append_getLast hne).symm (fun h => hlast (congrArg some h))
        hopens hfree
  | nav => exact solid_made [] (by decide) hfree
  | title => exact solid_made [] (by decide) hfree
  | item he => exact solid_made [] (by decide) hfree
  | link he => exact solid_made [_] (by decide) hfree

end Heading

namespace Math

open Prose

variable {n : Nat} {segments : List Segment}

/-- Math is put back behind a solid tag as if the text started there. -/
theorem Solid.restoreWith_front {t : List Char} (h : Solid t)
    (hsegments : ∀ s ∈ segments, s.Numbered n) (answer : Segment -> Outcome) (y : List Char) :
    Math.restoreWith answer segments (t ++ y) = t ++ Math.restoreWith answer segments y := by
  have hall := h.restoreWith hsegments answer [] y
  rw [restoreWith_nil hsegments] at hall
  exact hall

/-- Whether a fragment stays as it is when math is put back, whatever stands behind it. -/
def IsStill : Fragment -> Prop
  | .text s => 'M' ∉ escapeQuoted s
  | .tag t => Solid t.markup
  | .passed _ => False

theorem restoreWith_still (hsegments : ∀ s ∈ segments, s.Numbered n) (answer : Segment -> Outcome)
    {fragments : List Fragment} (h : ∀ f ∈ fragments, IsStill f) (y : List Char) :
    Math.restoreWith answer segments (writeAll fragments ++ y) =
      writeAll fragments ++ Math.restoreWith answer segments y := by
  induction fragments with
  | nil => rfl
  | cons f rest ih =>
      have hf := h f List.mem_cons_self
      have hrest := ih fun g hg => h g (List.mem_cons_of_mem f hg)
      rw [writeAll_cons, List.append_assoc, List.append_assoc, ← hrest]
      cases f with
      | text s => exact restoreWith_append_of_notMem hsegments answer hf (flat_escapeQuoted s).1 _
      | tag t => exact Solid.restoreWith_front hf hsegments answer _
      | passed s => exact hf.elim

end Math

namespace Document

open Number Heading Prose Math

variable {n : Nat} {segments : List Segment} {entries : List Entry}

/-! ## Math in the lines of the table -/

theorem restore_item (hsegments : ∀ s ∈ segments, s.Numbered n) (setter : Typesetter) {e : Entry}
    (he : e.Anchored) (y : List Char) :
    restore (some setter) segments (contentsItem e ++ y) =
      contentsItem (restoreEntry setter segments e) ++ restore (some setter) segments y := by
  have hsolid : forall t : Tag, ContentsTag [e] t -> Solid t.markup := fun t ht =>
    ht.solid (List.forall_mem_singleton.2 he)
  have hmem : e ∈ [e] := List.mem_singleton_self e
  have hlink : Solid (Tag.plain "/a".toList).markup := hsolid _ (.plain (by decide))
  have hline : Solid (Tag.plain "/li".toList).markup := hsolid _ (.plain (by decide))
  rw [← writeAll_itemFragments, ← writeAll_itemFragments]
  simp only [itemFragments, writeAll_cons, writeAll_nil, Fragment.markup, List.append_assoc,
    List.append_nil, restore]
  rw [(hsolid _ (.item hmem)).restoreWith_front hsegments,
    (hsolid _ (.link hmem)).restoreWith_front hsegments, hlink.restoreWith hsegments,
    hline.restoreWith_front hsegments]
  rfl

theorem restore_lines (hsegments : ∀ s ∈ segments, s.Numbered n) (setter : Typesetter)
    (hentries : ∀ e ∈ entries, e.Anchored) (y : List Char) :
    restore (some setter) segments (joinWith ['\n'] (entries.map contentsItem) ++ y) =
      joinWith ['\n'] ((entries.map (restoreEntry setter segments)).map contentsItem) ++
        restore (some setter) segments y := by
  induction entries with
  | nil => rfl
  | cons e rest ih =>
      have he := hentries e List.mem_cons_self
      have hrest := ih fun d hd => hentries d (List.mem_cons_of_mem e hd)
      cases rest with
      | nil => exact restore_item hsegments setter he y
      | cons d rest =>
          simp only [List.map_cons, joinWith, List.append_assoc] at hrest ⊢
          rw [restore_item hsegments setter he, restore,
            restoreWith_append_of_notMem hsegments _ (by decide) (by decide)]
          exact congrArg (fun s => contentsItem (restoreEntry setter segments e) ++ (['\n'] ++ s))
            hrest

/-- What stands in front of the lines of the table. -/
def contentsFront (direction : List Char) : List Fragment :=
  [.tag ⟨"nav".toList, [.made "class".toList "doc-toc".toList], ['>']⟩, .text ['\n'],
    .tag ⟨"div".toList, [.made "class".toList "toc-title".toList], ['>']⟩,
    .text (contentsTitle direction), .tag (.plain "/div".toList), .text ['\n'],
    .tag (.plain "ul".toList), .text ['\n']]

/-- What stands behind them. -/
def contentsBack : List Fragment :=
  [.text ['\n'], .tag (.plain "/ul".toList), .text ['\n'], .tag (.plain "/nav".toList),
    .text ['\n']]

theorem contents_eq (entries : List Entry) (enabled : Bool) (direction : List Char) :
    contents entries enabled direction =
      if !enabled || entries.isEmpty then []
      else writeAll (contentsFront direction) ++
        (joinWith ['\n'] (entries.map contentsItem) ++ writeAll contentsBack) := by
  rw [← writeAll_contentsFragments, ← writeAll_lineFragments, ← writeAll_append, ← writeAll_append]
  unfold contentsFragments
  split <;> rfl

/-- The tags around the lines do not depend on the entries. -/
theorem solid_of_contentsTag {t : Tag} (h : ContentsTag [] t) : Solid t.markup :=
  h.solid fun _ he => absurd he List.not_mem_nil

theorem solid_of_mem_contentsNames {name : List Char} (h : name ∈ contentsNames) :
    Solid (Tag.plain name).markup :=
  solid_of_contentsTag (.plain h)

theorem notMem_lineEnd : 'M' ∉ escapeQuoted ['\n'] := by
  decide

theorem isStill_contentsFront (direction : List Char) :
    ∀ f ∈ contentsFront direction, IsStill f := by
  have htitle : 'M' ∉ escapeQuoted (contentsTitle direction) := by
    apply notMem_escapeQuoted
    unfold contentsTitle
    split <;> decide
  have hdiv := solid_of_mem_contentsNames (show "/div".toList ∈ contentsNames by decide)
  have hlist := solid_of_mem_contentsNames (show "ul".toList ∈ contentsNames by decide)
  simp only [contentsFront, List.forall_mem_cons, IsStill]
  exact ⟨solid_of_contentsTag .nav, notMem_lineEnd, solid_of_contentsTag .title, htitle, hdiv,
    notMem_lineEnd, hlist, notMem_lineEnd, fun _ hf => absurd hf List.not_mem_nil⟩

theorem isStill_contentsBack : ∀ f ∈ contentsBack, IsStill f := by
  have hlist := solid_of_mem_contentsNames (show "/ul".toList ∈ contentsNames by decide)
  have hnav := solid_of_mem_contentsNames (show "/nav".toList ∈ contentsNames by decide)
  simp only [contentsBack, List.forall_mem_cons, IsStill]
  exact ⟨notMem_lineEnd, hlist, notMem_lineEnd, hnav, notMem_lineEnd,
    fun _ hf => absurd hf List.not_mem_nil⟩

/-- Math is put back in the texts of the table of contents, and nowhere else in it. -/
theorem restore_contents (hsegments : ∀ s ∈ segments, s.Numbered n) (setter : Typesetter)
    (hentries : ∀ e ∈ entries, e.Anchored) (enabled : Bool) (direction : List Char) :
    restore (some setter) segments (contents entries enabled direction) =
      contents (entries.map (restoreEntry setter segments)) enabled direction := by
  rw [contents_eq, contents_eq, List.isEmpty_map]
  split
  · exact restoreWith_nil hsegments _
  · have hback := restoreWith_still hsegments (fun s => setter s.expression s.display)
      isStill_contentsBack []
    rw [restoreWith_nil hsegments, List.append_nil] at hback
    have hlines := restore_lines hsegments setter hentries (writeAll contentsBack)
    rw [restore] at hlines ⊢
    rw [restoreWith_still hsegments _ (isStill_contentsFront direction), hlines, restore, hback]

variable {α : Type} [Scalar α] {s : Settings α} {today : Date} {source : List Char} {r : Rendered}

theorem headings_of_render {setter : Typesetter}
    (h : render (some setter) s today source = .ok (some r)) :
    r.headings = (prepare source).headings.map (restoreEntry setter (extract source).segments) := by
  have hsegments : (prepare source).segments = (extract source).segments := by
    simp only [prepare]
  rcases parts_of_render h with ⟨sheet, head, -, -, hr⟩
  rw [hr, assemble, hsegments]

/-- Behind the header of a document stands the table of contents of its headings. -/
theorem body_eq_contents {setter : Typesetter}
    (h : render (some setter) s today source = .ok (some r)) :
    exists head rest, header s today = .ok head ∧
      r.body = head ++ (contents r.headings s.showsToc s.direction.name ++ rest) := by
  rcases body_of_render h with ⟨head, hhead, hbody, -⟩
  rcases exists_recoverable_extract source with ⟨n, hsegments⟩
  have hentries : ∀ e ∈ (prepare source).headings, e.Anchored := fun _ => anchored_of_mem_listed
  refine ⟨head, restore (some setter) (extract source).segments (prepare source).markup, hhead, ?_⟩
  rw [hbody, proseOf_eq, contentsOf, restore_contents hsegments.numbered setter hentries,
    headings_of_render h]

/-! ## Links in the lines of the table -/

/-- A line of the table opens one anchor, and those in its text. -/
theorem anchorsIn_contentsItem (e : Entry) :
    anchorsIn (contentsItem e) = 1 + anchorsIn e.text := by
  have htags : AllTags (fun t => IsTag t.markup) (itemFragments e) := fun t ht =>
    (contentsTag_itemFragments (List.mem_singleton_self e) t ht).shaped.isTag
  have hbare : writeAll ((itemFragments e).map Fragment.bare) =
      "<><>".toList ++ (e.text ++ ((Tag.plain []).markup ++ "<>".toList)) := rfl
  have hfront : Unlinked "<><>".toList :=
    (unlinked_tag isTag_bare opensAnchor_bare).append (unlinked_tag isTag_bare opensAnchor_bare)
  have hcount : anchorTags (itemFragments e) = 1 := rfl
  have hback : anchorsIn "<>".toList = 0 := by decide
  rw [← writeAll_itemFragments, anchorsIn_writeAll htags, hbare, hfront,
    anchorsIn_append_tag isTag_bare, opensAnchor_bare, hcount, hback]
  exact Nat.add_comm _ 1

/-- The listed headings of a document, those of its containers and those of the text around
them. -/
def titles (source : List Char) : List Title :=
  (Call.gather Call.titles Anchors.start (calls source)).filter (isListed ·.entry.level)

theorem map_entry_titles (source : List Char) :
    (titles source).map Title.entry = bodyHeadings source ++ textHeadings source := by
  rw [← filter_gather_calls, ← Call.map_entry_gather, List.filter_map]
  rfl

/-- The line of the table for a heading of a document, with its math put back. -/
def titleItem (source : List Char) (t : Title) : List Char :=
  contentsItem (restoreEntry deferred (extract source).segments t.entry)

theorem anchorsIn_titleItem (source : List Char) (t : Title) :
    anchorsIn (titleItem source t) = 1 + t.parts.countP Inline.isLink + typedAnchors t.parts := by
  rw [titleItem, anchorsIn_contentsItem, restoreEntry, anchorsIn_restore, t.written,
    anchorsIn_renderParts, Nat.add_assoc]

/-- The table of contents has a line for each listed heading. It opens the anchor that the table
writes, those that are typed in the heading, and one for each link in the heading; so only the
first two, for every line, exactly if no listed heading holds a link. -/
theorem links_of_contents (hon : s.showsToc = true)
    (hrender : render (some deferred) s today source = .ok (some r)) :
    (exists head rest, header s today = .ok head ∧
      r.body = head ++ (contents r.headings true s.direction.name ++ rest)) ∧
    (r.headings.map contentsItem).Perm ((titles source).map (titleItem source)) ∧
    (∀ t ∈ titles source, anchorsIn (titleItem source t) =
      1 + t.parts.countP Inline.isLink + typedAnchors t.parts) ∧
    ((∀ t ∈ titles source, anchorsIn (titleItem source t) = 1 + typedAnchors t.parts) ↔
      ∀ t ∈ titles source, ∀ part ∈ t.parts, part.isLink = false) := by
  refine ⟨hon ▸ body_eq_contents hrender, ?_, fun t _ => anchorsIn_titleItem source t, ?_⟩
  · have hperm := (perm_headings source).map
      fun e => contentsItem (restoreEntry deferred (extract source).segments e)
    rw [← map_entry_titles, List.map_map] at hperm
    rw [headings_of_render hrender, List.map_map]
    exact hperm
  · refine forall₂_congr fun t _ => ?_
    have hcount : t.parts.countP Inline.isLink = 0 ↔ ∀ part ∈ t.parts, part.isLink = false := by
      simp [List.countP_eq_zero]
    rw [anchorsIn_titleItem, ← hcount]
    omega

/-- A heading with emphasis and an anchor that is typed. -/
theorem links_of_contents_of_typed_anchor :
    exists r, render (some deferred) { (Settings.default : Settings Float) with
        showToc := .bool true } ⟨2026, 0, 1⟩ "# *A* <a id=x></a>".toList = .ok (some r) ∧
      (exists head rest, r.body = head ++ (contents r.headings true "rtl".toList ++ rest)) ∧
      ∀ t ∈ titles "# *A* <a id=x></a>".toList,
        anchorsIn (titleItem "# *A* <a id=x></a>".toList t) = 1 + typedAnchors t.parts := by
  have hrender : exists r, render (some deferred) { (Settings.default : Settings Float) with
      showToc := .bool true } ⟨2026, 0, 1⟩ "# *A* <a id=x></a>".toList = .ok (some r) := ⟨_, rfl⟩
  rcases hrender with ⟨r, hr⟩
  rcases links_of_contents rfl hr with ⟨⟨head, rest, -, hbody⟩, -, -, hlinks⟩
  refine ⟨r, hr, ⟨head, rest, hbody⟩, hlinks.2 ?_⟩
  decide +kernel

/-- The line of a heading that is a link opens two anchors, though none is typed. -/
theorem links_nested_of_link :
    exists r, render (some deferred) { (Settings.default : Settings Float) with
        showToc := .bool true } ⟨2026, 0, 1⟩ "# [a](b)".toList = .ok (some r) ∧
      r.headings.map (fun e => anchorsIn (contentsItem e)) = [2] ∧
      ∀ t ∈ titles "# [a](b)".toList, typedAnchors t.parts = 0 := by
  refine ⟨_, rfl, ?_⟩
  decide +kernel

end Document
end Folio
