import Folio.Proofs.Document.Tags
import Folio.Proofs.Heading.Calls
import Folio.Proofs.Math.Around
import Folio.Proofs.Text.Turn

/-!
# The order of the listed headings

The text around containers lists its headings as it writes them, and those of a container
when it takes a block of markup for one. So the list is in the order of the document when
every block that is taken for a container holds the headings that wait first, and none are
left (`headings_in_turn`). Which containers are rendered ahead and which blocks are taken
for containers is told by two tests that differ, and then the order may be another one.
-/

namespace Folio

open Text

namespace Prose

/-!
## Tags in what is written
-/

theorem inTurn_tagsOf (fragments : List Fragment) :
    inTurn ((tagsOf fragments).map Tag.markup) (writeAll fragments) = true := by
  induction fragments with
  | nil => rfl
  | cons f rest ih =>
      cases f with
      | text s | passed s => exact inTurn_of_suffix (List.suffix_append _ _) ih
      | tag t => exact inTurn_append (inTurn_singleton (List.infix_refl t.markup)) ih

end Prose

namespace Heading

open Prose Math

/-- The tags that open headings. -/
def headingTags (entries : List Entry) : List (List Char) :=
  (entries.map Entry.tag).map Tag.markup

theorem headingTags_append (a b : List Entry) :
    headingTags (a ++ b) = headingTags a ++ headingTags b := by
  rw [headingTags, List.map_append, List.map_append]
  rfl

theorem fresh_tag {e : Entry} (h : e.Anchored) : e.tag.Fresh := by
  have hid : 'M' ∉ e.id := by
    rcases h with ⟨text, count, hid⟩
    rw [hid]
    exact notMem_anchor text count
  refine Tag.fresh ?_ ?_ (by decide)
  · simp [notMem_intText]
  · exact List.forall_mem_singleton.2 (Attribute.fresh_fixed (by decide) hid)

theorem solid_tag {e : Entry} (h : e.Anchored) : Solid e.tag.markup where
  opens := by
    refine ⟨_, rfl, ?_⟩
    intro hmeets
    exact absurd (meets_cons_cons.1 hmeets).1 (by decide)
  closes := by
    refine ⟨'<' :: 'h' :: Number.intText e.level ++ " id=\"".toList ++ Html.escapeQuoted e.id,
      '"', ?_, by decide⟩
    simp [Tag.markup, Entry.tag, Attribute.markup, Attribute.fixed]
  free n i := (fresh_tag h).occurs_markup n i

end Heading

namespace Prose

open Heading

/-!
## Blocks that bring headings in
-/

/-- Whether each block that is taken for a container holds the headings that wait first, in
turn, and none wait behind the last block. -/
def agrees (waiting : List (List Entry)) : List Block -> Bool
  | [] => waiting.flatten.isEmpty
  | .markup text :: rest =>
      if Container.isBlock text then
        inTurn (headingTags (waiting.headD [])) text && agrees waiting.tail rest
      else
        agrees waiting rest
  | _ :: rest => agrees waiting rest

theorem agrees_nil (blocks : List Block) : agrees [] blocks = true := by
  induction blocks with
  | nil => rfl
  | cons b rest ih =>
      cases b with
      | markup text =>
          rw [agrees]
          split
          · exact ih
          · exact ih
      | start _ | stop _ | paragraph _ _ | heading _ _ | cell _ _ _ | rule | code _ | fence _ _
      | definition _ _ => exact ih

theorem listed_meet_eq (a : Anchors) : a.meet.listed = a.listed ++ a.waiting.headD [] := by
  cases h : a.waiting with
  | nil => simp [Anchors.meet, h]
  | cons first rest => simp [Anchors.meet, h]

theorem waiting_meet (a : Anchors) : a.meet.waiting = a.waiting.tail := by
  cases h : a.waiting with
  | nil => simp [Anchors.meet, h]
  | cons first rest => simp [Anchors.meet, h]

/-- A block adds headings whose tags stand in turn in what it writes. -/
theorem follow_block (defs : Link.Definitions) (previous next : Option Block) (n : Nat)
    {b : Block} {rest : List Block} {a : Anchors} (h : agrees a.waiting (b :: rest) = true) :
    let out := renderBlock defs previous next (some n) b
    let after := out.landmarks.foldl follow a
    agrees after.waiting rest = true ∧
      exists added, after.listed = a.listed ++ added ∧
        inTurn (headingTags added) out.markup = true := by
  intro out after
  cases b with
  | markup text =>
      simp only [agrees] at h
      cases hblock : Container.isBlock text with
      | true =>
          rw [hblock, if_pos rfl, Bool.and_eq_true] at h
          have hafter : after = a.meet := by
            simp only [after, out, renderBlock, hblock, if_true]
            rfl
          rw [hafter, waiting_meet, listed_meet_eq]
          exact ⟨h.2, a.waiting.headD [], rfl, h.1⟩
      | false =>
          rw [hblock] at h
          have hafter : after = a := by
            simp only [after, out, renderBlock, hblock]
            rfl
          rw [hafter]
          exact ⟨h, [], (List.append_nil _).symm, rfl⟩
  | heading level text =>
      have hafter : after =
          { a with listed := a.listed ++ entries out.landmarks } := by
        simp only [after, out, renderBlock, renderHeading]
        split
        · rfl
        · simp [entries]
      rw [hafter]
      refine ⟨h, entries out.landmarks, rfl, ?_⟩
      rw [← writeAll_block]
      refine inTurn_of_sublist ?_ (inTurn_tagsOf _)
      have hopened := openedIn_block defs previous next n (.heading level text)
      rw [headingTags, entries_block]
      apply List.Sublist.map
      refine List.Sublist.trans ?_ (List.filter_sublist (p := Tag.opensHeading))
      rw [← openedIn, hopened]
      exact List.filter_sublist.map _
  | start _ | stop _ | paragraph _ _ | cell _ _ _ | rule | code _ | fence _ _
  | definition _ _ => exact ⟨h, [], (List.append_nil _).symm, rfl⟩

/-- Blocks that agree with what waits add headings whose tags stand in turn in what they
write. -/
theorem follow_blocks (defs : Link.Definitions) (previous : Option Block) (n : Nat)
    {blocks : List Block} {a : Anchors} (h : agrees a.waiting blocks = true) :
    let out := renderBlocks defs previous (some n) blocks
    exists added, (out.landmarks.foldl follow a).flush.listed = a.listed ++ added ∧
      inTurn (headingTags added) out.markup = true := by
  induction blocks generalizing previous n a with
  | nil =>
      refine ⟨[], ?_, rfl⟩
      have hnone : a.waiting.flatten = [] := List.isEmpty_iff.1 h
      exact congrArg (a.listed ++ ·) hnone
  | cons b rest ih =>
      rcases follow_block defs previous rest.head? n h with ⟨hrest, first, hfirst, hturn⟩
      rcases ih (some b) (n + (b.headings defs n).length) hrest with ⟨others, hothers, hturns⟩
      refine ⟨first ++ others, ?_, ?_⟩
      · rw [← List.append_assoc, ← hfirst, ← hothers, renderBlocks]
        simp only
        rw [List.foldl_append, count_block]
      · rw [renderBlocks]
        simp only
        rw [count_block, headingTags_append]
        exact inTurn_append hturn hturns

/-- Whether the blocks of a text agree with the headings that wait. -/
def agreesWith (waiting : List (List Entry)) (source : List Char) : Bool :=
  agrees waiting ((blocks (normalizeLines source)).filter Block.isShown)

theorem inTurn_renderText {source : List Char} {a : Anchors}
    (h : agreesWith a.waiting source = true) :
    exists added, (renderText source a).2.listed = a.listed ++ added ∧
      inTurn (headingTags added) (renderText source a).1 = true :=
  follow_blocks (Block.definitions (blocks (normalizeLines source))) none a.count h

end Prose

namespace Document

open Number Prose Math Heading

variable {α : Type} [Scalar α]

/-!
## Documents
-/

/-- Whether the blocks of the text around the containers agree with the containers. -/
def agrees (source : List Char) : Bool :=
  agreesWith (preparedText source).2.waiting (preparedText source).1

/-- A document without containers agrees with them. -/
theorem agrees_of_bodies_eq_nil {source : List Char}
    (h : Container.bodies (extract source).text = []) : agrees source = true := by
  have hprepared : (preparedText source).2 = Anchors.start := by
    rw [preparedText, ← Call.after_bodies, h]
    rfl
  rw [agrees, agreesWith, hprepared]
  exact agrees_nil _

/-- Nothing is listed while containers are rendered ahead. -/
theorem listed_preparedText (source : List Char) : (preparedText source).2.listed = [] :=
  Container.emitAll_preserves (P := fun a : Anchors => a.listed = []) (fun _ _ h => h) _ rfl

theorem prepare_eq (source : List Char) :
    prepare source = ⟨(renderText (preparedText source).1 (preparedText source).2).1,
      (renderText (preparedText source).1 (preparedText source).2).2.listed,
      (extract source).segments⟩ :=
  rfl

theorem inTurn_prepare {source : List Char} (h : agrees source = true) :
    inTurn (headingTags (prepare source).headings) (prepare source).markup = true := by
  rcases inTurn_renderText h with ⟨added, hadded, hturn⟩
  rw [listed_preparedText, List.nil_append] at hadded
  rw [prepare_eq, hadded]
  dsimp only
  exact hturn

theorem inTurn_restoreWith {words : List (List Char)} (hwords : ∀ w ∈ words, Solid w)
    (answer : Segment -> Outcome) (source : List Char) {s : List Char}
    (h : inTurn words s = true) :
    inTurn words (restoreWith answer (extract source).segments s) = true := by
  rcases exists_recoverable_extract source with ⟨n, hsegments⟩
  induction words generalizing s with
  | nil => rfl
  | cons w rest ih =>
      rcases inTurn_cons_iff.1 h with ⟨before, after, rfl, hrest⟩
      have hw := hwords w List.mem_cons_self
      rw [List.append_assoc, hw.restoreWith hsegments.numbered]
      refine inTurn_cons_iff.2 ⟨_, _, (List.append_assoc _ _ _).symm, ?_⟩
      exact ih (fun v hv => hwords v (List.mem_cons_of_mem w hv)) hrest

theorem solid_of_mem_headings {source w : List Char}
    (h : w ∈ headingTags (prepare source).headings) : Solid w := by
  rcases List.mem_map.1 h with ⟨t, ht, rfl⟩
  rcases List.mem_map.1 ht with ⟨e, he, rfl⟩
  have hlisted : e ∈ (renderDocument (extract source).text Anchors.start).2.listed := he
  exact solid_tag (anchored_of_mem_listed hlisted)

theorem headingTags_assemble (setter : Typesetter) (p : Prepared) (body sheet : List Char) :
    headingTags (assemble setter p body sheet).headings = headingTags p.headings := by
  simp only [headingTags, assemble, List.map_map]
  rfl

/-- A document that is rendered has a header, and behind it the contents and the prose. -/
theorem body_of_render {setter : Typesetter} {s : Settings α} {today : Date}
    {source : List Char} {r : Rendered}
    (h : render (some setter) s today source = .ok (some r)) :
    exists head, header s today = .ok head ∧ r.body = head ++ proseOf setter s (prepare source) ∧
      headingTags r.headings = headingTags (prepare source).headings := by
  rcases parts_of_render h with ⟨_, head, -, hhead, rfl⟩
  exact ⟨head, hhead, rfl, headingTags_assemble _ _ _ _⟩

/-- The listed headings stand in the body of a document in the order of the list, if the
blocks that are taken for containers agree with the containers that were rendered ahead. -/
theorem headings_in_turn {setter : Typesetter} {s : Settings α} {today : Date}
    {source : List Char} {r : Rendered} (hagrees : agrees source = true)
    (hrender : render (some setter) s today source = .ok (some r)) :
    inTurn (headingTags r.headings) r.body = true := by
  rcases body_of_render hrender with ⟨head, -, hbody, htags⟩
  have hprose : inTurn (headingTags (prepare source).headings)
      (contentsOf (prepare source) s ++ (prepare source).markup) = true :=
    inTurn_of_suffix (List.suffix_append _ _) (inTurn_prepare hagrees)
  rw [hbody, htags]
  refine inTurn_of_suffix (List.suffix_append head _) ?_
  exact inTurn_restoreWith (fun _ => solid_of_mem_headings) _ source hprose

/-- A container in front of a heading, whose block is taken for one. -/
theorem headings_in_turn_of_container :
    exists r, render (some deferred) (Settings.default : Settings Float) ⟨2026, 0, 1⟩
        "<div class=\"theory\">\n# A\n</div>\n# B".toList = .ok (some r) ∧
      agrees "<div class=\"theory\">\n# A\n</div>\n# B".toList = true ∧
      inTurn (headingTags r.headings) r.body = true := by
  have hrender : exists r, render (some deferred) (Settings.default : Settings Float) ⟨2026, 0, 1⟩
      "<div class=\"theory\">\n# A\n</div>\n# B".toList = .ok (some r) := ⟨_, rfl⟩
  have hagrees : agrees "<div class=\"theory\">\n# A\n</div>\n# B".toList = true := by
    decide +kernel
  rcases hrender with ⟨r, hr⟩
  exact ⟨r, hr, hagrees, headings_in_turn hagrees hr⟩

/-- A container that is rendered ahead, and whose block is taken for no container. All of its
headings stand in the body, but not in the order of the list. -/
theorem headings_out_of_turn :
    exists r, render (some deferred) (Settings.default : Settings Float) ⟨2026, 0, 1⟩
        "<div class=\"important\">\n# A\n</div>\n# B".toList = .ok (some r) ∧
      (∀ w ∈ headingTags r.headings, occurs w r.body = true) ∧
      inTurn (headingTags r.headings) r.body = false := by
  refine ⟨_, rfl, ?_⟩
  decide +kernel

end Document
end Folio
