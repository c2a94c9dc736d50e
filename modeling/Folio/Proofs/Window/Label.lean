import Folio.Proofs.Document.Links
import Folio.Proofs.Prose.Seen
import Folio.Window.Screen

/-!
# The label of the section

The label shows the markup of a heading without what lies between an opening angle and the next
closing one. References stay as they are written there, and of a tag with a closing angle in a
quoted value the part behind that angle is left (`withoutTags_eq`). So the label is what is seen
of the heading exactly if its markup holds neither (`label_eq_visible_iff`).
-/

namespace Folio

open Text Html

namespace Window

/-!
## Markup without tags
-/

theorem withoutTags_cons_of_ne {c : Char} (h : c ≠ '<') (s : List Char) :
    withoutTags 0 (c :: s) = c :: withoutTags 0 s := by
  rw [withoutTags, if_neg h]

theorem withoutTags_append_of_notMem {w : List Char} (h : '<' ∉ w) (s : List Char) :
    withoutTags 0 (w ++ s) = w ++ withoutTags 0 s := by
  induction w with
  | nil => rfl
  | cons c w ih =>
      rw [List.mem_cons, not_or] at h
      rw [List.cons_append, withoutTags_cons_of_ne (Ne.symm h.1), ih h.2, List.cons_append]

theorem withoutTags_length_append (t s : List Char) :
    withoutTags t.length (t ++ s) = withoutTags 0 s := by
  induction t with
  | nil => rfl
  | cons c t ih => exact ih

theorem breakOn?_close {u : List Char} (h : '>' ∉ u) (s : List Char) :
    breakOn? ['>'] (u ++ '>' :: s) = some (u, s) := by
  induction u with
  | nil => rfl
  | cons c u ih =>
      rw [List.mem_cons, not_or] at h
      rw [List.cons_append, breakOn?, dropPrefix?, if_neg h.1]
      simp only [ih h.2, Option.map_some]

/-- A tag ends at the first closing angle behind its first character. -/
theorem withoutTags_tag {d : Char} {u : List Char} (hd : d ≠ '>') (hu : '>' ∉ u)
    (s : List Char) : withoutTags 0 ('<' :: d :: (u ++ '>' :: s)) = withoutTags 0 s := by
  have hend : tagEnd? (d :: (u ++ '>' :: s)) = some s := by
    rw [tagEnd?, breakOn?_close hu]
    · rfl
    · exact hd
  have hlength : (d :: (u ++ '>' :: s)).length - s.length = (d :: (u ++ ['>'])).length := by
    simp only [List.length_cons, List.length_append, List.length_nil]
    omega
  have hskip := withoutTags_length_append (d :: (u ++ ['>'])) s
  rw [withoutTags, if_pos rfl, hend]
  simp only [hlength]
  rw [← hskip, List.cons_append, List.append_assoc, List.singleton_append]

theorem withoutTags_empty_tag (s : List Char) :
    withoutTags 0 ('<' :: '>' :: s) = '<' :: withoutTags 0 ('>' :: s) := by
  rw [withoutTags, if_pos rfl, tagEnd?]

/-- Nothing is taken out across a closing angle. -/
theorem withoutTags_append_close (a b : List Char) :
    withoutTags 0 (a ++ '>' :: b) = withoutTags 0 (a ++ ['>']) ++ withoutTags 0 b := by
  match a with
  | [] => exact withoutTags_cons_of_ne (by decide) b
  | c :: a =>
      by_cases hc : c = '<'
      · subst hc
        match a with
        | [] =>
            rw [List.singleton_append, withoutTags_empty_tag, withoutTags_cons_of_ne (by decide)]
            rfl
        | d :: a =>
            by_cases hd : d = '>'
            · subst hd
              have ih := withoutTags_append_close ('>' :: a) b
              simp only [List.cons_append] at ih ⊢
              rw [withoutTags_empty_tag, withoutTags_empty_tag, ih, List.cons_append]
            · by_cases hclose : '>' ∈ a
              · rcases List.eq_append_cons_of_mem hclose with ⟨u, v, rfl, hu⟩
                have ih := withoutTags_append_close v b
                simp only [List.cons_append, List.append_assoc]
                rw [withoutTags_tag hd hu, withoutTags_tag hd hu, ih]
              · have halone := withoutTags_tag hd hclose []
                simp only [List.cons_append]
                rw [withoutTags_tag hd hclose, halone]
                rfl
      · have ih := withoutTags_append_close a b
        simp only [List.cons_append]
        rw [withoutTags_cons_of_ne hc, withoutTags_cons_of_ne hc, ih, List.cons_append]
termination_by a.length

theorem withoutTags_append_of_ends {t after : List Char} (h : Ends t after) :
    withoutTags 0 (t ++ after) = withoutTags 0 t ++ withoutTags 0 after := by
  rcases h with rfl | hlast
  · rw [List.append_nil, withoutTags, List.append_nil]
  · rcases List.getLast?_eq_some_iff.1 hlast with ⟨front, rfl⟩
    rw [List.append_assoc, List.singleton_append]
    exact withoutTags_append_close front after

/-!
## What the label shows
-/

/-- What the label shows of a lexeme. -/
def shown : Lexeme -> List Char
  | .letter c => [c]
  | .reference w _ => w
  | .tag w => withoutTags 0 w

/-- Whether the label shows of a lexeme what is seen of it: a tag goes without rest, and
nothing is a reference. -/
def IsPlain : Lexeme -> Prop
  | .letter _ => True
  | .reference _ _ => False
  | .tag w => withoutTags 0 w = []

instance decidableIsPlain : (x : Lexeme) -> Decidable (IsPlain x)
  | .letter _ => .isTrue trivial
  | .reference _ _ => .isFalse id
  | .tag w => inferInstanceAs (Decidable (withoutTags 0 w = []))

/-- Whether every opening angle in markup opens a tag. -/
def NoLooseAngle (s : List Char) : Prop :=
  Lexeme.letter '<' ∉ lexemes s

instance (s : List Char) : Decidable (NoLooseAngle s) :=
  inferInstanceAs (Decidable (_ ∉ lexemes s))

theorem withoutTags_eq {s : List Char} (h : NoLooseAngle s) :
    withoutTags 0 s = (lexemes s).flatMap shown := by
  unfold NoLooseAngle at h
  induction s using lexemes_induction with
  | nil => rfl
  | cons x after hfits ih =>
      rw [List.mem_cons, not_or] at h
      rw [List.flatMap_cons, ← ih h.2]
      cases x with
      | letter c =>
          have hc : c ≠ '<' := fun hc => h.1 (congrArg Lexeme.letter hc.symm)
          exact withoutTags_cons_of_ne hc after
      | reference w stands => exact withoutTags_append_of_notMem hfits.1 after
      | tag w => exact withoutTags_append_of_ends hfits

/-- The label never shows less of a lexeme than is seen of it. -/
theorem length_seen_lt {x : Lexeme} {after : List Char} (h : x.Fits after) (hplain : ¬ IsPlain x) :
    x.seen.length < (shown x).length := by
  cases x with
  | letter c => exact absurd trivial hplain
  | reference w stands => exact h.2
  | tag w => exact List.length_pos_iff.2 hplain

theorem shown_eq_seen {x : Lexeme} (h : IsPlain x) : shown x = x.seen := by
  cases x with
  | letter c => rfl
  | reference w stands => exact h.elim
  | tag w => exact h

theorem flatMap_shown {l : List Lexeme} (h : ∀ x ∈ l, IsPlain x) :
    l.flatMap shown = l.flatMap Lexeme.seen := by
  induction l with
  | nil => rfl
  | cons x l ih =>
      rw [List.forall_mem_cons] at h
      rw [List.flatMap_cons, List.flatMap_cons, shown_eq_seen h.1, ih h.2]

/-- What the label shows is what is seen, or it is longer. -/
theorem plain_or_longer (s : List Char) :
    (∀ x ∈ lexemes s, IsPlain x) ∨
      ((lexemes s).flatMap Lexeme.seen).length < ((lexemes s).flatMap shown).length := by
  induction s using lexemes_induction with
  | nil => exact Or.inl fun x hx => absurd hx List.not_mem_nil
  | cons x after hfits ih =>
      simp only [List.forall_mem_cons, List.flatMap_cons, List.length_append]
      by_cases hplain : IsPlain x
      · rw [shown_eq_seen hplain]
        exact ih.imp (fun hrest => ⟨hplain, hrest⟩) (fun hlonger => Nat.add_lt_add_left hlonger _)
      · right
        have hfirst := length_seen_lt hfits hplain
        rcases ih with hrest | hlonger
        · rw [flatMap_shown hrest]
          exact Nat.add_lt_add_right hfirst _
        · omega

theorem withoutTags_eq_visible_iff {s : List Char} (h : NoLooseAngle s) :
    withoutTags 0 s = visible s ↔ ∀ x ∈ lexemes s, IsPlain x := by
  rw [withoutTags_eq h, visible]
  constructor
  · intro heq
    rcases plain_or_longer s with hplain | hlonger
    · exact hplain
    · rw [heq] at hlonger
      exact absurd hlonger (Nat.lt_irrefl _)
  · exact flatMap_shown

-- A loose angle takes text away up to the next closing one, which may look like the rest that a
-- tag leaves.
example :
    let s := "<a t=\"x><>\"><&#62;\">".toList
    withoutTags 0 s = visible s ∧ ¬ ∀ x ∈ lexemes s, IsPlain x := by
  decide

/-!
## Markup of inline parts
-/

open Prose

theorem withoutTags_markup_append {t : Tag} (hread : t.Readable) (hshaped : t.Shaped)
    (x : List Char) : withoutTags 0 (t.markup ++ x) = withoutTags 0 x := by
  rcases hshaped.isTag with ⟨inner, hmarkup, hinner⟩
  rcases hshaped.ending with ⟨ending, -, hending⟩
  have hname : t.name ≠ [] := by
    intro hempty
    have hreadable := hread.name
    rw [hempty] at hreadable
    cases hreadable
  cases inner with
  | nil =>
      have hlength := congrArg List.length hmarkup
      have hpos := List.length_pos_iff.2 hname
      rw [Tag.markup, hending] at hlength
      simp only [List.length_append, List.length_cons, List.length_nil] at hlength
      omega
  | cons d u =>
      have hflat := hinner.flat.2
      rw [List.mem_cons, not_or] at hflat
      rw [hmarkup]
      simp only [List.cons_append, List.append_assoc, List.nil_append]
      exact withoutTags_tag (Ne.symm hflat.1) hflat.2 x

/-- Of inline parts without typed markup the label shows the texts, as they are escaped. -/
theorem withoutTags_renderParts {parts : List Inline} (h : Untyped parts) :
    withoutTags 0 (renderParts parts) = escapeQuoted (textOf parts) := by
  have hread : withoutTags 0 (renderParts parts) =
      (partFragments parts).flatMap fun f => escapeQuoted f.seen :=
    read_renderParts rfl rfl (fun s => withoutTags_append_of_notMem (flat_escapeQuoted s).1)
      (fun _ => withoutTags_markup_append) h
  rw [hread, textOf, escapeQuoted, List.flatMap_assoc]
  rfl

/-!
## The label of a heading
-/

open Document Heading Math Viewport Number

variable {α : Type} [Scalar α]

theorem nodup_headings {setter : Typesetter} {s : Settings α} {today : Date}
    {source : List Char} {d : Rendered}
    (hrender : render (some setter) s today source = .ok (some d)) :
    (d.headings.map Entry.id).Nodup := by
  have hids : d.headings.map Entry.id = (prepare source).headings.map Entry.id := by
    rw [headings_of_render hrender, List.map_map]
    rfl
  have hall := Call.nodup_gather_headings Anchors.start (calls source)
  have hlisted := (List.filter_sublist (p := fun e => isListed e.level)).map Entry.id |>.nodup hall
  rw [filter_gather_calls] at hlisted
  rw [hids]
  exact ((perm_headings source).map Entry.id).nodup_iff.2 hlisted

theorem find?_id {entries : List Entry} (h : (entries.map Entry.id).Nodup) {e : Entry}
    (he : e ∈ entries) : (entries.find? fun d => d.id == e.id) = some e := by
  induction entries with
  | nil => cases he
  | cons d rest ih =>
      rw [List.map_cons, List.nodup_cons] at h
      rcases List.mem_cons.1 he with rfl | hrest
      · exact List.find?_cons_of_pos (beq_self_eq_true e.id)
      · have hne : d.id ≠ e.id := fun heq => h.1 (heq ▸ List.mem_map_of_mem hrest)
        rw [List.find?_cons_of_neg (by simpa using hne), ih h.2 hrest]

theorem sectionLabel_tellActive (screen : Screen α) (id : Value α) :
    (Surroundings.tellActive screen id).sectionLabel = screen.titleOf id.text? := by
  show (Screen.run { screen with sectionLabel := screen.titleOf id.text? } _).sectionLabel = _
  unfold Screen.run
  split
  · rfl
  · rfl

/-- The label of a heading that comes to be read is its markup without tags. -/
theorem sectionLabel_eq {setter : Typesetter} {s : Settings α} {today : Date}
    {source : List Char} {d : Rendered}
    (hrender : render (some setter) s today source = .ok (some d)) {e : Entry}
    (he : e ∈ d.headings) {screen : Screen α} (hscreen : screen.headings = d.headings) :
    (Surroundings.tellActive screen (.text e.id)).sectionLabel = withoutTags 0 e.text := by
  have hfound := find?_id (nodup_headings hrender) he
  rw [sectionLabel_tellActive, Value.text?, Screen.titleOf, hscreen, Option.bind_some, hfound]

/-- In a document without math, the label shows the text of a heading without typed markup as it
is escaped; so it shows what is seen of the heading exactly if nothing in the text is escaped. -/
theorem label_of_title {setter : Typesetter} {s : Settings α} {today : Date}
    {source : List Char} {d : Rendered}
    (hrender : render (some setter) s today source = .ok (some d))
    (hmath : (extract source).segments = []) {t : Title} (ht : t ∈ titles source)
    (htyped : Untyped t.parts) {screen : Screen α} (hscreen : screen.headings = d.headings) :
    let label := (Surroundings.tellActive screen (.text t.entry.id)).sectionLabel
    label = escapeQuoted (textOf t.parts) ∧ visible t.entry.text = textOf t.parts ∧
      (label = visible t.entry.text ↔ escapeQuoted (textOf t.parts) = textOf t.parts) := by
  intro label
  have hmem : t.entry ∈ d.headings := by
    have hlisted : t.entry ∈ bodyHeadings source ++ textHeadings source := by
      rw [← Document.map_entry_titles]
      exact List.mem_map_of_mem ht
    rw [headings_of_render hrender, hmath]
    exact List.mem_map.2 ⟨t.entry, (perm_headings source).mem_iff.2 hlisted, rfl⟩
  have hlabel : label = escapeQuoted (textOf t.parts) := by
    rw [← withoutTags_renderParts htyped, ← t.written]
    exact sectionLabel_eq hrender hmem hscreen
  have hseen : visible t.entry.text = textOf t.parts := by
    rw [t.written, visible_renderParts htyped]
  exact ⟨hlabel, hseen, by rw [hlabel, hseen]⟩

/-- The label of a heading that comes to be read shows what is seen of it exactly if its markup
holds no reference and no tag of which something is left. -/
theorem label_eq_visible_iff {setter : Typesetter} {s : Settings α} {today : Date}
    {source : List Char} {d : Rendered}
    (hrender : render (some setter) s today source = .ok (some d)) {e : Entry}
    (he : e ∈ d.headings) (hangles : NoLooseAngle e.text) {screen : Screen α}
    (hscreen : screen.headings = d.headings) :
    (Surroundings.tellActive screen (.text e.id)).sectionLabel = visible e.text ↔
      ∀ x ∈ lexemes e.text, IsPlain x := by
  rw [sectionLabel_eq hrender he hscreen]
  exact withoutTags_eq_visible_iff hangles

/-- A heading with emphasis is shown as it is seen. -/
theorem label_eq_visible_iff_of_emphasis :
    exists d, render (some deferred) (Settings.default : Settings Float) ⟨2026, 0, 1⟩
        "# *A*".toList = .ok (some d) ∧
      ⟨"a-1".toList, "<em>A</em>".toList, 1⟩ ∈ d.headings ∧
      NoLooseAngle "<em>A</em>".toList ∧
      (Surroundings.tellActive { (Screen.start : Screen Float) with headings := d.headings }
        (.text "a-1".toList)).sectionLabel = visible "<em>A</em>".toList := by
  have hrender : exists d, render (some deferred) (Settings.default : Settings Float) ⟨2026, 0, 1⟩
      "# *A*".toList = .ok (some d) ∧
        ⟨"a-1".toList, "<em>A</em>".toList, 1⟩ ∈ d.headings := by
    refine ⟨_, rfl, ?_⟩
    decide +kernel
  rcases hrender with ⟨d, hd, he⟩
  have hangles : NoLooseAngle "<em>A</em>".toList := by decide
  refine ⟨d, hd, he, hangles, (label_eq_visible_iff hd he hangles rfl).2 ?_⟩
  decide

/-- An ampersand in a heading is shown as a reference. -/
theorem label_shows_reference :
    exists d, render (some deferred) (Settings.default : Settings Float) ⟨2026, 0, 1⟩
        "# A & B".toList = .ok (some d) ∧
      ⟨"a-b-1".toList, "A &amp; B".toList, 1⟩ ∈ d.headings ∧
      (Surroundings.tellActive { (Screen.start : Screen Float) with headings := d.headings }
        (.text "a-b-1".toList)).sectionLabel = "A &amp; B".toList ∧
      visible "A &amp; B".toList = "A & B".toList := by
  have hrender : exists d, render (some deferred) (Settings.default : Settings Float) ⟨2026, 0, 1⟩
      "# A & B".toList = .ok (some d) ∧
        ⟨"a-b-1".toList, "A &amp; B".toList, 1⟩ ∈ d.headings ∧
        (Surroundings.tellActive { (Screen.start : Screen Float) with headings := d.headings }
          (.text "a-b-1".toList)).sectionLabel = "A &amp; B".toList := by
    refine ⟨_, rfl, ?_⟩
    decide +kernel
  rcases hrender with ⟨d, hd, he, hlabel⟩
  refine ⟨d, hd, he, hlabel, ?_⟩
  have hescaped : "A &amp; B".toList = escapeQuoted "A & B".toList ++ [] := by decide
  rw [hescaped, visible_escapeQuoted_append]
  rfl

end Window
end Folio
