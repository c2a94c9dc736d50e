import Folio.Proofs.Html.Lexeme
import Folio.Proofs.Prose.Links

/-!
# What is seen of inline parts

Each tag that is written for inline parts is read as one tag, since its values hold no quote
(`tagRest?_markup_append`). So of inline parts without typed markup just their texts are seen
(`visible_renderParts`).
-/

namespace Folio

open Text Html Pattern

namespace Html

/-! ## Reading on in a tag -/

namespace Spot

/-- Where a reader stands behind a text that does not end the tag. -/
def through (p : Spot) (s : List Char) : Spot :=
  s.foldl (fun p c => p.next c) p

theorem through_append (p : Spot) (s t : List Char) :
    p.through (s ++ t) = (p.through s).through t :=
  List.foldl_append

theorem rest_append {s : List Char} (h : '>' ∉ s) (p : Spot) (x : List Char) :
    p.rest (s ++ x) = (p.through s).rest x := by
  induction s generalizing p with
  | nil => rfl
  | cons c s ih =>
      rw [List.mem_cons, not_or] at h
      rw [List.cons_append, rest, if_neg (by simp [Ne.symm h.1]), ih h.2]
      rfl

theorem rest_close {p : Spot} (h : p.isQuoted = false) (x : List Char) :
    p.rest ('>' :: x) = x := by
  rw [rest, if_pos (by simp [h])]

/-- Whether a reader may go on with an attribute. -/
def Waits (p : Spot) : Prop :=
  p = element ∨ p = gap

theorem Waits.next_space {p : Spot} (h : p.Waits) : p.next ' ' = gap := by
  rcases h with rfl | rfl
  · rfl
  · rfl

/-- What a reader of a tag heeds besides letters. -/
def signs : List Char :=
  [' ', '\t', '\n', '\x0c', '\r', '/', '=', '>', '"']

theorem notMem_signs {c : Char} (h : isAsciiLetter c = true) : c ∉ signs := by
  have hnone : signs.all (fun d => !isAsciiLetter d) = true := by decide
  intro hmem
  have hnot := List.all_eq_true.1 hnone c hmem
  rw [h] at hnot
  cases hnot

theorem next_letter {c : Char} (h : isAsciiLetter c = true) :
    element.next c = element ∧ gap.next c = key ∧ key.next c = key := by
  have hnot := notMem_signs h
  simp only [signs, List.mem_cons, List.not_mem_nil, or_false, not_or] at hnot
  simp [next, isTagBlank, hnot]

theorem through_letters {p : Spot} (hp : p = element ∨ p = key) {name : List Char}
    (h : ∀ c ∈ name, isAsciiLetter c = true) : p.through name = p := by
  induction name with
  | nil => rfl
  | cons c name ih =>
      rw [List.forall_mem_cons] at h
      have hnext : p.next c = p := by
        rcases hp with rfl | rfl
        · exact (next_letter h.1).1
        · exact (next_letter h.1).2.2
      rw [through, List.foldl_cons, hnext]
      exact ih h.2

theorem through_quoted {mark : Char} {value : List Char} (h : mark ∉ value) :
    (quoted mark).through value = quoted mark := by
  induction value with
  | nil => rfl
  | cons c value ih =>
      rw [List.mem_cons, not_or] at h
      have hnext : (quoted mark).next c = quoted mark := if_neg (Ne.symm h.1)
      rw [through, List.foldl_cons, hnext]
      exact ih h.2

end Spot

theorem quote_notMem_escapeQuoted (s : List Char) : '"' ∉ escapeQuoted s := by
  intro hmem
  rcases List.mem_flatMap.1 hmem with ⟨c, -, hc⟩
  by_cases hself : quotedChar c = [c]
  · rw [hself, List.mem_singleton] at hc
    rw [← hc] at hself
    exact absurd hself (by decide)
  · have hsign : ∀ entry ∈ escapeNames, '"' ∉ quotedChar entry.1 := by decide
    rcases exists_name_of_quotedChar hself with ⟨name, hname⟩
    exact hsign _ hname hc

end Html

namespace Prose

/-! ## Tags of inline parts -/

/-- An attribute with a name of letters, and with no quote in its value. -/
structure Attribute.Readable (a : Attribute) : Prop where
  intro ::
  exists_markup : exists c name value,
    a.markup = ' ' :: c :: name ++ ("=\"".toList ++ value ++ ['"']) ∧
    (c :: name).all isAsciiLetter = true ∧ '"' ∉ value

theorem Attribute.Readable.through_markup {a : Attribute} (h : a.Readable) {p : Spot}
    (hp : p.Waits) : p.through a.markup = Spot.gap := by
  rcases h with ⟨c, name, value, hmarkup, hall, hquote⟩
  have hletters := List.forall_mem_cons.1 (List.all_eq_true.1 hall)
  have hname : (Spot.gap.next c).through name = Spot.key := by
    rw [(Spot.next_letter hletters.1).2.1]
    exact Spot.through_letters (Or.inr rfl) hletters.2
  have hsign : Spot.key.through "=\"".toList = Spot.quoted '"' := rfl
  rw [hmarkup, Spot.through_append, Spot.through_append, Spot.through_append]
  show (((((p.next ' ').next c).through name).through _).through value).through ['"'] = _
  rw [hp.next_space, hname, hsign, Spot.through_quoted hquote]
  rfl

theorem through_attributes {attributes : List Attribute} (h : ∀ a ∈ attributes, a.Readable)
    {p : Spot} (hp : p.Waits) : (p.through (attributes.flatMap Attribute.markup)).Waits := by
  induction attributes generalizing p with
  | nil => exact hp
  | cons a rest ih =>
      rw [List.forall_mem_cons] at h
      rw [List.flatMap_cons, Spot.through_append, h.1.through_markup hp]
      exact ih h.2 (Or.inr rfl)

/-- Whether a name is made of letters, with a slash in front of them or not. -/
def isReadableName : List Char -> Bool
  | '/' :: c :: name => (c :: name).all isAsciiLetter
  | c :: name => (c :: name).all isAsciiLetter
  | [] => false

theorem exists_of_isReadableName {full : List Char} (h : isReadableName full = true) :
    exists c name, (∀ d ∈ c :: name, isAsciiLetter d = true) ∧
      (full = c :: name ∨ full = '/' :: c :: name) := by
  unfold isReadableName at h
  split at h
  · next c name => exact ⟨c, name, List.all_eq_true.1 h, Or.inr rfl⟩
  · next c name _ => exact ⟨c, name, List.all_eq_true.1 h, Or.inl rfl⟩
  · cases h

structure Tag.Readable (t : Tag) : Prop where
  name : isReadableName t.name = true
  attributes : ∀ a ∈ t.attributes, a.Readable

theorem isQuoted_through_ending {ending : List Char} (h : ending ∈ endings) {p : Spot}
    (hp : p.Waits) : (p.through ending).isQuoted = false := by
  have hall : ∀ ending ∈ endings, (Spot.element.through ending).isQuoted = false ∧
      (Spot.gap.through ending).isQuoted = false := by
    decide
  rcases hp with rfl | rfl
  · exact (hall ending h).1
  · exact (hall ending h).2

theorem tagRest?_opening {c : Char} (h : isAsciiLetter c = true) (s : List Char) :
    tagRest? ('<' :: c :: s) = some (Spot.element.rest s) := by
  unfold tagRest?
  split
  · next hs =>
      cases hs
      exact absurd h (by decide)
  · next hs =>
      cases hs
      exact absurd h (by decide)
  · next hs =>
      cases hs
      rw [if_pos h]
  · next hother => exact absurd rfl (hother c s)

theorem tagRest?_closing {c : Char} (h : isAsciiLetter c = true) (s : List Char) :
    tagRest? ('<' :: '/' :: c :: s) = some (Spot.element.rest s) := by
  rw [tagRest?, if_pos h]

/-- A tag of the renderer is read up to the angle that closes it. -/
theorem Tag.Readable.tagRest?_markup_append {t : Tag} (h : t.Readable) (hshaped : t.Shaped)
    (x : List Char) : tagRest? (t.markup ++ x) = some x := by
  rcases exists_of_isReadableName h.name with ⟨c, name, hletters, hname⟩
  rcases hshaped.ending with ⟨ending, hending, hclose⟩
  rw [List.forall_mem_cons] at hletters
  have hangle : '>' ∉ name ++ (t.attributes.flatMap Attribute.markup ++ ending) := by
    have hnames := (inner_of_isPlainName hshaped.name).flat.2
    have hattributes := (inner_flatMap hshaped.attributes).flat.2
    have hlast := (inner_of_mem_endings hending).flat.2
    have hplain : '>' ∉ name := by
      rcases hname with hname | hname
      · rw [hname] at hnames
        exact fun hmem => hnames (List.mem_cons_of_mem _ hmem)
      · rw [hname] at hnames
        exact fun hmem => hnames (List.mem_cons_of_mem _ (List.mem_cons_of_mem _ hmem))
    simp [hplain, hattributes, hlast]
  have hrest : Spot.element.rest
      (name ++ (t.attributes.flatMap Attribute.markup ++ ending) ++ '>' :: x) = x := by
    rw [Spot.rest_append hangle, Spot.through_append, Spot.through_append,
      Spot.through_letters (Or.inl rfl) hletters.2]
    exact Spot.rest_close
      (isQuoted_through_ending hending (through_attributes h.attributes (Or.inl rfl))) x
  have hmarkup : t.markup ++ x = '<' :: (t.name ++
      (t.attributes.flatMap Attribute.markup ++ ending) ++ '>' :: x) := by
    rw [Tag.markup, hclose]
    simp
  rcases hname with hname | hname
  · rw [hmarkup, hname, List.cons_append, List.cons_append, tagRest?_opening hletters.1, hrest]
  · rw [hmarkup, hname, List.cons_append, List.cons_append, List.cons_append, List.cons_append,
      tagRest?_closing hletters.1, hrest]

/-! ## Inline parts -/

theorem Attribute.readable_taken {c : Char} {name : List Char}
    (h : (c :: name).all isAsciiLetter = true) (value : List Char) :
    (Attribute.taken (c :: name) value).Readable :=
  ⟨c, name, escapeQuoted value, by simp [attributeMarkup], h, quote_notMem_escapeQuoted value⟩

theorem readable_titleAttribute (title : List Char) :
    ∀ a ∈ titleAttribute title, a.Readable := by
  unfold titleAttribute
  split
  · exact List.forall_mem_nil _
  · exact List.forall_mem_singleton.2 (Attribute.readable_taken rfl title)

theorem readable_plain {name : List Char} (h : isReadableName name = true) :
    (Tag.plain name).Readable :=
  ⟨h, List.forall_mem_nil _⟩

theorem readable_boxTag (checked : Bool) : (boxTag checked).Readable where
  name := by
    show isReadableName "input".toList = true
    decide
  attributes := List.forall_mem_cons.2
    ⟨⟨'t', "ype".toList, "checkbox".toList, rfl, rfl, by decide⟩,
      List.forall_mem_singleton.2
        ⟨'c', "lass".toList, "task-checkbox".toList, rfl, rfl, by decide⟩⟩

theorem readable_fragments (part : Inline) : AllTags Tag.Readable part.fragments := by
  cases part with
  | text s | literal s => exact allTags_nil.text s
  | softBreak | hardBreak => exact (allTags_nil.text ['\n']).tag ⟨by decide, List.forall_mem_nil _⟩
  | code s =>
      exact ((allTags_nil.tag (readable_plain (by decide))).text s).tag (readable_plain (by decide))
  | markup s =>
      show AllTags Tag.Readable (if occurs boxClass s then _ else _)
      split
      · exact allTags_nil.tag (readable_boxTag _)
      · exact allTags_nil.passed s
  | start stress | stop stress =>
      exact allTags_nil.tag (readable_plain (by cases stress <;> decide))
  | anchor target =>
      refine allTags_nil.tag ⟨rfl, List.forall_mem_cons.2 ⟨?_, readable_titleAttribute _⟩⟩
      exact Attribute.readable_taken rfl _
  | endAnchor => exact allTags_nil.tag (readable_plain (by decide))
  | image target alt =>
      refine allTags_nil.tag ⟨rfl, List.forall_mem_cons.2 ⟨?_, List.forall_mem_cons.2
        ⟨?_, readable_titleAttribute _⟩⟩⟩
      · exact Attribute.readable_taken rfl _
      · exact Attribute.readable_taken rfl _
  | box checked => exact allTags_nil.tag (readable_boxTag checked)

/-! ## What is seen -/

/-- What is seen of a fragment that the renderer writes. -/
def Fragment.seen : Fragment -> List Char
  | .text s => s
  | .tag _ => []
  | .passed _ => []

def Fragment.isPassed : Fragment -> Bool
  | .passed _ => true
  | _ => false

/-- Whether no markup is passed on with inline parts. -/
def Untyped (parts : List Inline) : Prop :=
  ∀ f ∈ partFragments parts, f.isPassed = false

/-- The text of inline parts. -/
def textOf (parts : List Inline) : List Char :=
  (partFragments parts).flatMap Fragment.seen

theorem readable_partFragments (parts : List Inline) :
    AllTags Tag.Readable (partFragments parts) := by
  induction parts with
  | nil => exact allTags_nil
  | cons part rest ih => exact (readable_fragments part).append ih

/-- A reading of markup that passes over tags gives what it makes of the texts. -/
theorem read_renderParts {read make : List Char -> List Char} (hnil : read [] = [])
    (hmake : make [] = []) (htext : forall s x, read (escapeQuoted s ++ x) = make s ++ read x)
    (htag : forall t : Tag, t.Readable -> t.Shaped -> forall x, read (t.markup ++ x) = read x)
    {parts : List Inline} (h : Untyped parts) :
    read (renderParts parts) = (partFragments parts).flatMap fun f => make f.seen := by
  have hkinds := kind_partFragments parts
  have hreadable := readable_partFragments parts
  rw [← writeAll_partFragments]
  unfold Untyped at h
  generalize partFragments parts = fragments at h hkinds hreadable ⊢
  induction fragments with
  | nil => exact hnil
  | cons f rest ih =>
      rw [List.forall_mem_cons] at h
      rw [writeAll_cons, List.flatMap_cons]
      cases f with
      | text s => rw [markup_text, htext, ih h.2 hkinds hreadable, Fragment.seen]
      | tag t =>
          have hrest := ih h.2 (fun u hu => hkinds u (List.mem_cons_of_mem t hu))
            (fun u hu => hreadable u (List.mem_cons_of_mem t hu))
          have hshaped := (hkinds t List.mem_cons_self).shaped
          rw [Fragment.seen, hmake, List.nil_append, ← hrest]
          exact htag t (hreadable t List.mem_cons_self) hshaped (writeAll rest)
      | passed s => cases h.1

/-- Of inline parts without typed markup their texts are seen. -/
theorem visible_renderParts {parts : List Inline} (h : Untyped parts) :
    visible (renderParts parts) = textOf parts :=
  read_renderParts rfl rfl visible_escapeQuoted_append
    (fun _ hread hshaped x => visible_of_tag (hread.tagRest?_markup_append hshaped x)) h

end Prose

end Folio
