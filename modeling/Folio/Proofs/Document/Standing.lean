import Folio.Proofs.Document.Order
import Folio.Proofs.Heading.Calls
import Folio.Proofs.Math.Unseen
import Folio.Proofs.Prose.Shape
import Folio.Proofs.Prose.Standing

/-!
# Listed headings in the body

A heading of the text is written into the body where it is read. One of a container is
written ahead and only comes into the body with the markup of its container, as far as that
is passed on: in code it is text, and in a comment it is none.
-/

namespace Folio

open Text Html

namespace Heading

open Prose Math

/-!
## The table of contents
-/

theorem ContentsTag.shaped {entries : List Entry} {t : Tag} (h : ContentsTag entries t) :
    t.Shaped := by
  cases h with
  | plain hname =>
      have hnames : ∀ name ∈ contentsNames, isPlainName name = true := by decide
      exact Tag.shaped_plain (hnames _ hname)
  | nav | title =>
      exact Tag.shaped (by decide)
        (List.forall_mem_singleton.2 (Attribute.inner_made (by decide) (by decide)))
  | @item e he =>
      have hlevel : Flat ("toc-level-".toList ++ Number.intText e.level) :=
        Flat.append (by decide) (flat_intText e.level)
      exact Tag.shaped (by decide)
        (List.forall_mem_singleton.2 (Attribute.inner_made (by decide) hlevel))
  | @link e he =>
      have hid := flat_escapeAttribute e.id
      have hmark : Flat ['#'] := by decide
      refine Tag.shaped (by decide) (List.forall_mem_cons.2 ⟨?_, ?_⟩)
      · exact Attribute.inner_made (by decide) (hmark.append hid)
      · exact List.forall_mem_singleton.2 (Attribute.inner_made (by decide) hid)

theorem ContentsTag.opensHeading {entries : List Entry} {t : Tag} (h : ContentsTag entries t) :
    t.opensHeading = false := by
  cases h with
  | plain hname =>
      have hnames : ∀ name ∈ contentsNames, (Tag.plain name).opensHeading = false := by decide
      exact hnames _ hname
  | nav | title | item he | link he => rfl

/-- The table of contents opens no heading. -/
theorem openedIn_contentsFragments (entries : List Entry) (enabled : Bool)
    (direction : List Char) : openedIn (contentsFragments entries enabled direction) = [] := by
  apply List.filter_eq_nil_iff.2
  intro t ht
  rw [(contentsTag_contentsFragments entries enabled direction t ht).opensHeading]
  exact Bool.false_ne_true

/-!
## The tags of listed headings
-/

theorem shaped_tag {e : Entry} (h : isListed e.level = true) : e.tag.Shaped := by
  refine Tag.shaped ?_ (List.forall_mem_singleton.2 (Attribute.inner_fixed (by decide) e.id))
  rw [isListed, Bool.or_eq_true, decide_eq_true_iff, decide_eq_true_iff] at h
  rcases h with h | h
  · rw [h]
    decide
  · rw [h]
    decide

theorem opensHeading_tag {e : Entry} (h : isListed e.level = true) :
    e.tag.opensHeading = true := by
  rw [isListed, Bool.or_eq_true, decide_eq_true_iff, decide_eq_true_iff] at h
  unfold Entry.tag
  rcases h with h | h
  · rw [h]
    rfl
  · rw [h]
    rfl

theorem markup_entryTag (e : Entry) :
    e.tag.markup =
      '<' :: e.tag.name ++ (" id=".toList ++ ('"' :: escapeQuoted e.id ++ "\">".toList)) := by
  simp [Tag.markup, Entry.tag, Attribute.markup, Attribute.fixed]

theorem bears_tag {e : Entry} (hlisted : isListed e.level = true) (hanchored : e.Anchored) :
    Bears e.tag.markup where
  isTag := (shaped_tag hlisted).isTag
  anchor := by
    have hname : ∀ c ∈ '<' :: e.tag.name, decide (c ≠ ' ') = true := by
      intro c hc
      rcases List.mem_cons.1 hc with rfl | hc
      · rfl
      · rw [decide_eq_true_iff]
        rintro rfl
        exact notMem_of_isPlainName (shaped_tag hlisted).name (by decide) hc
    rw [markup_entryTag, List.dropWhile_append_of_pos hname]
    rfl
  free := by
    have hfresh := fresh_tag hanchored
    have hname := hfresh.name
    have hid : 'M' ∉ escapeQuoted e.id := (List.forall_mem_singleton.1 hfresh.attributes).2
    simp [markup_entryTag, hname, hid]

/-- Headings whose tags are written alike have the same anchor. -/
theorem id_eq_of_markup_eq {d e : Entry} (hd : d.Anchored) (he : e.Anchored)
    (hname : d.tag.name = e.tag.name) (h : d.tag.markup = e.tag.markup) : d.id = e.id := by
  rw [markup_entryTag, markup_entryTag, hname] at h
  have hquoted := List.append_cancel_right (List.append_cancel_left (List.append_cancel_left h))
  rcases hd with ⟨text, m, hd⟩
  rcases he with ⟨other, n, he⟩
  rw [hd, he, escapeQuoted_anchor, escapeQuoted_anchor] at hquoted
  rw [hd, he]
  exact List.cons_inj_right _ |>.1 hquoted

end Heading

namespace Document

open Number Heading Prose Math

variable {α : Type} [Scalar α] {w : List Char}

/-!
## The header
-/

theorem flat_text (date : Date) (d : Direction) : Flat (date.text d) := by
  have hblank : Flat [' '] := by decide
  have hmonth : forall month, Flat (monthText d month) := by
    cases d with
    | rtl => decide
    | ltr => decide
  exact (((flat_digitsOf date.day).append (hblank.append (hmonth date.month))).append
    (hblank.append (flat_digitsOf date.year)))

theorem neutral_lineEnd (hw : IsTag w) : Neutral w ['\n'] :=
  neutral_of_notMem hw (by decide) (by decide)

theorem neutral_nil : Neutral w [] :=
  fun _ _ => rfl

theorem neutral_dateLine (hw : Bears w) (d : Direction) (today : Date) :
    Neutral w (dateLine d today) := by
  have hfirst : IsTag "<div class=\"doc-date\">".toList :=
    ⟨"div class=\"doc-date\"".toList, rfl, by decide⟩
  have hlast : IsTag "</div>".toList := ⟨"/div".toList, rfl, by decide⟩
  have hall := neutral_element hw hfirst hlast (by decide) (by decide) (flat_text today d)
  rw [← List.append_assoc] at hall
  exact hall

/-- The header counts for nothing: its tags bear no anchors. -/
theorem neutral_headerUnder (hw : Bears w) (title : List Char) (d : Direction) (showsDate : Bool)
    (today : Date) : Neutral w (headerUnder title d showsDate today) := by
  have hline := neutral_lineEnd hw.isTag
  have hbox : IsTag "<div class=\"doc-header\">".toList :=
    ⟨"div class=\"doc-header\"".toList, rfl, by decide⟩
  have hboxEnd : IsTag "</div>".toList := ⟨"/div".toList, rfl, by decide⟩
  have htitle : IsTag "<h1 class=\"doc-title\">".toList :=
    ⟨"h1 class=\"doc-title\"".toList, rfl, by decide⟩
  have htitleEnd : IsTag "</h1>".toList := ⟨"/h1".toList, rfl, by decide⟩
  have hfront := (neutral_tag hw.isTag hbox (hw.ne (by decide))).append hline
  have hback := hline.append ((neutral_tag hw.isTag hboxEnd (hw.ne (by decide))).append hline)
  have hmiddle := (neutral_element hw htitle htitleEnd (by decide) (by decide)
    (flat_escapeAttribute title)).append hline
  have hdate : Neutral w (if showsDate then dateLine d today else []) := by
    split
    · exact neutral_dateLine hw d today
    · exact neutral_nil
  have hall := ((hfront.append hmiddle).append hdate).append hback
  unfold headerUnder
  split
  · exact neutral_nil
  · simpa using hall

theorem neutral_header (hw : Bears w) {s : Settings α} {today : Date} {head : List Char}
    (h : header s today = .ok head) : Neutral w head := by
  rw [header] at h
  cases htitle : titleOf s with
  | error e =>
      rw [htitle] at h
      cases h
  | ok title =>
      rw [htitle] at h
      cases h
      exact neutral_headerUnder hw title _ _ today

/-!
## The headings of a document
-/

theorem shaped_fragments (s : Settings α) (source : List Char) :
    AllTags Tag.Shaped (fragments s source) := by
  refine AllTags.append ?_ ?_
  · exact fun t ht => (contentsTag_contentsFragments _ _ _ t ht).shaped
  · exact fun t ht => (kind_fragmentsFrom _ _ t ht).shaped

/-- A tag with an anchor stands in the body as often as it is written and given there. -/
theorem standings_body {s : Settings α} {today : Date} {source : List Char} {r : Rendered}
    (hrender : render (some deferred) s today source = .ok (some r)) (hw : Bears w) :
    standings w r.body =
      writtenOutside w [] (fragments s source) + given w (fragments s source) := by
  rcases body_of_render hrender with ⟨head, hhead, hbody, -⟩
  have hprose : proseOf deferred s (prepare source) =
      restore (some deferred) (extract source).segments (writeAll (fragments s source)) := by
    rw [writeAll_fragments]
    rfl
  rw [hbody, standings, neutral_header hw hhead, hprose, scan_restore hw]
  refine standings_writeAll hw.isTag (hw.ne (by decide)) ?_
  intro t ht
  exact (shaped_fragments s source t ht).isTag

/-- The calls by which a document is rendered: the bodies of its containers, and then the
text around them. -/
def bodyCalls (source : List Char) : List Call :=
  (Container.bodies (extract source).text).map .body

def calls (source : List Char) : List Call :=
  bodyCalls source ++ [.text (preparedText source).1]

/-- The listed headings of the containers. -/
def bodyHeadings (source : List Char) : List Entry :=
  (Call.gather Call.headings Anchors.start (bodyCalls source)).filter (isListed ·.level)

/-- The listed headings of the text around the containers. -/
def textHeadings (source : List Char) : List Entry :=
  (headingsFrom (preparedText source).2.count (preparedText source).1).filter (isListed ·.level)

theorem after_bodyCalls (source : List Char) :
    Anchors.start.after (bodyCalls source) = (preparedText source).2 :=
  Call.after_bodies _ _

theorem gather_calls (source : List Char) :
    Call.gather Call.headings Anchors.start (calls source) =
      Call.gather Call.headings Anchors.start (bodyCalls source) ++
        headingsFrom (preparedText source).2.count (preparedText source).1 := by
  rw [calls, Call.gather_append, after_bodyCalls]
  exact congrArg _ (List.append_nil _)

theorem filter_gather_calls (source : List Char) :
    (Call.gather Call.headings Anchors.start (calls source)).filter (isListed ·.level) =
      bodyHeadings source ++ textHeadings source := by
  rw [gather_calls, List.filter_append]
  rfl

/-- The headings that are listed are those of the containers and those of the text. -/
theorem perm_headings (source : List Char) :
    (prepare source).headings.Perm (bodyHeadings source ++ textHeadings source) := by
  have hknown := Call.known_after Anchors.start (calls source)
  have hafter : Anchors.start.after (calls source) =
      (renderText (preparedText source).1 (preparedText source).2).2 := by
    rw [← after_bodyCalls, Anchors.after, calls, List.foldl_append]
    rfl
  have hlisted : (Anchors.start.after (calls source)).known = (prepare source).headings := by
    rw [hafter]
    exact List.append_nil _
  rw [filter_gather_calls, hlisted] at hknown
  exact hknown

theorem isListed_of_mem_headings {source : List Char} {e : Entry}
    (h : e ∈ bodyHeadings source ++ textHeadings source) : isListed e.level = true := by
  rw [← filter_gather_calls] at h
  exact (List.mem_filter.1 h).2

theorem anchored_of_mem_headings {source : List Char} {e : Entry}
    (h : e ∈ bodyHeadings source ++ textHeadings source) : e.Anchored := by
  rw [← filter_gather_calls] at h
  exact Call.anchored_of_mem_gather (List.mem_filter.1 h).1

theorem bears_of_mem_headingTags {source : List Char}
    (h : w ∈ headingTags (bodyHeadings source ++ textHeadings source)) : Bears w := by
  rcases List.mem_map.1 h with ⟨t, ht, rfl⟩
  rcases List.mem_map.1 ht with ⟨e, he, rfl⟩
  exact bears_tag (isListed_of_mem_headings he) (anchored_of_mem_headings he)

/-- No tag that is written in the text around the containers is that of a heading of one. -/
theorem writtenOutside_of_mem_bodyHeadings (s : Settings α) {source : List Char}
    (h : w ∈ headingTags (bodyHeadings source)) :
    writtenOutside w [] (fragments s source) = 0 := by
  rcases List.mem_map.1 h with ⟨t, ht, rfl⟩
  rcases List.mem_map.1 ht with ⟨e, he, rfl⟩
  have hbody := (List.mem_filter.1 he).1
  have hlisted := (List.mem_filter.1 he).2
  apply writtenOutside_eq_zero
  intro t ht heq
  have hname : t.name = e.tag.name := by
    rw [← (shaped_fragments s source t ht).takeWhile_markup, heq,
      (shaped_tag hlisted).takeWhile_markup]
  have hopens : t.opensHeading = true := by
    have hheading := opensHeading_tag hlisted
    unfold Tag.opensHeading at hheading ⊢
    rwa [hname]
  -- A tag that opens a heading there is that of a heading of the text.
  have hopened : t ∈ openedIn (fragments s source) := List.mem_filter.2 ⟨ht, hopens⟩
  rw [fragments, openedIn_append, openedIn_contentsFragments, openedIn_fragmentsFrom,
    List.nil_append] at hopened
  rcases List.mem_map.1 hopened with ⟨d, hd, rfl⟩
  have hnodup := Call.nodup_gather_headings Anchors.start (calls source)
  have hanchored : ∀ e ∈ Call.gather Call.headings Anchors.start (calls source), e.Anchored :=
    fun _ => Call.anchored_of_mem_gather
  rw [gather_calls] at hnodup hanchored
  rw [List.map_append] at hnodup
  have hid := id_eq_of_markup_eq (hanchored d (List.mem_append_right _ hd))
    (hanchored e (List.mem_append_left _ hbody)) hname heq
  exact (List.nodup_append.1 hnodup).2.2 _ (List.mem_map_of_mem hbody) _
    (List.mem_map_of_mem hd) hid.symm

/-- Every listed heading stands exactly once in the body of a document, outside of comments,
if and only if each heading of a container is given once in the markup that is passed on, and
each heading of the text is written where no comment is open, or given, but not both. Neither
the header nor the table of contents nor math that is left to the page adds or hides any. -/
theorem headings_stand_iff {s : Settings α} {today : Date} {source : List Char} {r : Rendered}
    (hrender : render (some deferred) s today source = .ok (some r)) :
    (∀ w ∈ headingTags r.headings, standings w r.body = 1) ↔
      (∀ w ∈ headingTags (bodyHeadings source), given w (fragments s source) = 1) ∧
      (∀ w ∈ headingTags (textHeadings source),
        writtenOutside w [] (fragments s source) + given w (fragments s source) = 1) := by
  rcases body_of_render hrender with ⟨-, -, -, htags⟩
  have hmem : forall w, w ∈ headingTags r.headings ↔
      w ∈ headingTags (bodyHeadings source ++ textHeadings source) := by
    intro w
    rw [htags]
    exact (((perm_headings source).map _).map _).mem_iff
  have hstand : ∀ w ∈ headingTags (bodyHeadings source ++ textHeadings source),
      standings w r.body =
        writtenOutside w [] (fragments s source) + given w (fragments s source) :=
    fun w hw => standings_body hrender (bears_of_mem_headingTags hw)
  -- The headings of the text may be written; those of the containers are not.
  simp only [hmem]
  rw [headingTags_append] at hstand ⊢
  rw [List.forall_mem_append] at hstand ⊢
  refine and_congr ?_ ?_
  · refine forall₂_congr fun w hw => ?_
    rw [hstand.1 w hw, writtenOutside_of_mem_bodyHeadings s hw, Nat.zero_add]
  · refine forall₂_congr fun w hw => ?_
    rw [hstand.2 w hw]

theorem headings_stand_of_container :
    exists r, render (some deferred) (Settings.default : Settings Float) ⟨2026, 0, 1⟩
        "<div class=\"theory\">\n# A\n</div>\n# B".toList = .ok (some r) ∧
      ∀ w ∈ headingTags r.headings, standings w r.body = 1 := by
  have hrender : exists r, render (some deferred) (Settings.default : Settings Float) ⟨2026, 0, 1⟩
      "<div class=\"theory\">\n# A\n</div>\n# B".toList = .ok (some r) := ⟨_, rfl⟩
  rcases hrender with ⟨r, hr⟩
  refine ⟨r, hr, (headings_stand_iff hr).2 ⟨?_, ?_⟩⟩
  · decide +kernel
  · decide +kernel

/-- A container in code is rendered ahead, and its heading is listed, but the code is text. -/
theorem headings_not_standing_of_code :
    exists r, render (some deferred) (Settings.default : Settings Float) ⟨2026, 0, 1⟩
        "```\n<div class=\"theory\">\n# A\n</div>\n```".toList = .ok (some r) ∧
      r.headings = [⟨"a-1".toList, "A".toList, 1⟩] ∧
      ∀ w ∈ headingTags r.headings, standings w r.body = 0 := by
  refine ⟨_, rfl, ?_⟩
  decide +kernel

end Document
end Folio
