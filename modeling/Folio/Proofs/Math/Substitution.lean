import Folio.Proofs.Math.Escaping
import Folio.Proofs.Math.Lossless
import Folio.Proofs.Math.Place

/-!
# Restoring is one substitution

Math is put back segment after segment, in one or two passes for each. As long as no
markup holds a token, this is the same as a single pass that writes the markup of each
segment in the places of its token, so the order of the segments does not matter and no
token is left.
-/

namespace Folio
namespace Math

open Text

/-- What follows the place of a segment at the start of a text: a paragraph that holds
only its token, if the segment is display math, or else the token. -/
def Segment.after? (segment : Segment) (s : List Char) : Option (List Char) :=
  (if segment.display then loneParagraph? segment.token s else none).or
    (dropPrefix? segment.token s)

/-- Write the markup of each segment in the places of its token, in one pass. -/
def substitute (markup : Segment -> List Char) (segments : List Segment) (text : List Char) :
    List Char :=
  rewrite (fun s => segments.findSome? fun segment =>
    (segment.after? s).map fun rest => (markup segment, rest)) text

/-!
## The passes of a segment
-/

/-- The rules of the passes for a segment. -/
def Segment.rules (markup : Segment -> List Char) (segment : Segment) : List Rule :=
  (if segment.display then [loneRule segment.token (markup segment)] else []) ++
    [Rule.word segment.token (markup segment)]

theorem Segment.Numbered.solid {n : Nat} {segment : Segment} (h : segment.Numbered n) :
    startsSolid segment.token = true := by
  rcases h with ⟨i, hi⟩
  rw [hi]
  rfl

theorem putBack_eq_foldl {n : Nat} {markup : Segment -> List Char} {segment : Segment}
    (h : segment.Numbered n) (text : List Char) :
    putBack (markup segment) text segment =
      (segment.rules markup).foldl (fun text r => r.apply text) text := by
  cases hdisplay : segment.display with
  | true =>
      simp only [putBack, Segment.rules, hdisplay, if_true, List.cons_append, List.nil_append,
        List.foldl_cons, List.foldl_nil, apply_loneRule h.solid, Rule.apply_word h.ne_nil]
  | false =>
      simp only [putBack, Segment.rules, hdisplay, Bool.false_eq_true, if_false, List.nil_append,
        List.foldl_cons, List.foldl_nil, Rule.apply_word h.ne_nil]

/-- The place of a segment is what the first of its rules finds. -/
theorem map_after?_eq_findSome? {n : Nat} {markup : Segment -> List Char} {segment : Segment}
    (h : segment.Numbered n) (s : List Char) :
    ((segment.after? s).map fun rest => (markup segment, rest)) =
      (segment.rules markup).findSome? fun r => r.find? s := by
  have hempty : segment.token.isEmpty = false := by
    cases htoken : segment.token with
    | nil => exact absurd htoken h.ne_nil
    | cons c rest => rfl
  cases hdisplay : segment.display with
  | true =>
      simp only [Segment.after?, Segment.rules, hdisplay, if_true, List.cons_append,
        List.nil_append, List.findSome?_cons, List.findSome?_nil, loneRule, h.solid, Rule.word,
        hempty, Bool.false_eq_true, if_false]
      cases loneParagraph? segment.token s with
      | some rest => rfl
      | none => cases dropPrefix? segment.token s <;> rfl
  | false =>
      simp only [Segment.after?, Segment.rules, hdisplay, List.nil_append, List.findSome?_cons,
        List.findSome?_nil, Rule.word, hempty, Bool.false_eq_true, if_false]
      cases dropPrefix? segment.token s <;> rfl

/-- A rule of a segment turns places of its token into its markup. -/
theorem isPlace_of_mem_rules {markup : Segment -> List Char} {segment : Segment} {r : Rule}
    (hr : r ∈ segment.rules markup) {old new : List Char} (h : r.Turns old new) :
    IsPlace segment.token old ∧ new = markup segment := by
  rcases List.mem_append.1 hr with hr | hr
  · cases hdisplay : segment.display with
    | true =>
        rw [hdisplay, if_pos rfl, List.mem_singleton] at hr
        subst hr
        rcases h with ⟨-, hnew, hplace⟩
        exact ⟨Or.inr hplace, hnew⟩
    | false =>
        rw [hdisplay] at hr
        cases hr
  · rw [List.mem_singleton] at hr
    subst hr
    rcases h with ⟨-, hold, hnew⟩
    exact ⟨Or.inl hold, hnew⟩

theorem exists_rule_token {n : Nat} (markup : Segment -> List Char) {segment : Segment}
    (h : segment.Numbered n) :
    ∃ r ∈ segment.rules markup, r.Turns segment.token (markup segment) :=
  ⟨_, List.mem_append_right _ (List.mem_singleton_self _), h.ne_nil, rfl, rfl⟩

/-!
## Segments that do not disturb each other
-/

/-- Whether segments have tokens of one stem, all different, and markup that opens and
closes an element and holds none of the tokens. -/
structure Inert (n : Nat) (markup : Segment -> List Char) (segments : List Segment) : Prop where
  numbered : ∀ s ∈ segments, s.Numbered n
  distinct : segments.Pairwise fun s t => s.token ≠ t.token
  isElement : ∀ s ∈ segments, IsElement (markup s)
  free : ∀ s ∈ segments, ∀ t ∈ segments, occurs t.token (markup s) = false

theorem Inert.perm {n : Nat} {markup : Segment -> List Char} {segments order : List Segment}
    (h : Inert n markup segments) (horder : order.Perm segments) : Inert n markup order where
  numbered s hs := h.numbered s (horder.mem_iff.1 hs)
  distinct := (horder.pairwise_iff fun hne => Ne.symm hne).2 h.distinct
  isElement s hs := h.isElement s (horder.mem_iff.1 hs)
  free s hs t ht := h.free s (horder.mem_iff.1 hs) t (horder.mem_iff.1 ht)

/-- The markup of one segment holds no place of another, nor does it complete one. -/
theorem Inert.clear_markup {n : Nat} {markup : Segment -> List Char} {segments : List Segment}
    (h : Inert n markup segments) {s t : Segment} (hs : s ∈ segments) (ht : t ∈ segments)
    {place : List Char} (hplace : IsPlace t.token place) :
    Clear place (markup s) ∧ Clear (markup s) place.tail := by
  rcases h.numbered t ht with ⟨j, hj⟩
  have hfree := h.free s hs t ht
  rw [hj] at hplace hfree
  exact ⟨clear_place_markup (h.isElement s hs) hfree hplace,
    clear_markup_place (h.isElement s hs) hplace⟩

/-- The two passes for one segment: lone paragraphs first, and then what is left. -/
theorem Inert.pairwise_rules {n : Nat} {markup : Segment -> List Char} {segments : List Segment}
    (h : Inert n markup segments) {s : Segment} (hs : s ∈ segments) :
    (s.rules markup).Pairwise Rule.Precedes := by
  rcases h.numbered s hs with ⟨i, hi⟩
  cases hdisplay : s.display with
  | false =>
      simp only [Segment.rules, hdisplay, Bool.false_eq_true, if_false, List.nil_append]
      exact List.pairwise_singleton _ _
  | true =>
      simp only [Segment.rules, hdisplay, if_true, List.cons_append, List.nil_append]
      refine List.pairwise_cons.2 ⟨?_, List.pairwise_singleton _ _⟩
      intro r hr
      rw [List.mem_singleton] at hr
      subst hr
      constructor
      · intro old new old' new' hlone htoken
        rcases hlone with ⟨-, -, before, after, -, -, hold⟩
        rw [hold, htoken.2.1, hi]
        exact clear_of_notMem (notMem_tokenOf (by decide) n i)
      · intro old new old' new' hlone htoken
        rw [hlone.2.1, htoken.2.1]
        exact (h.clear_markup hs hs (Or.inl rfl)).1
      · intro old new old' new' hlone htoken
        rw [hlone.2.1, htoken.2.1]
        exact (h.clear_markup hs hs (Or.inl rfl)).2

/-- The passes for all segments may follow each other in the order of the segments. -/
theorem Inert.pairwise_flatMap {n : Nat} {markup : Segment -> List Char}
    {segments : List Segment} (h : Inert n markup segments) :
    (segments.flatMap (Segment.rules markup)).Pairwise Rule.Precedes := by
  rw [List.pairwise_flatMap]
  refine ⟨fun s hs => h.pairwise_rules hs, h.distinct.imp_of_mem ?_⟩
  intro s t hs ht hne r hr r' hr'
  rcases h.numbered s hs with ⟨i, hi⟩
  rcases h.numbered t ht with ⟨j, hj⟩
  have hij : i ≠ j := by
    intro hij
    exact hne (by rw [hi, hj, hij])
  constructor
  · intro old new old' new' hturns hturns'
    have hplace := (isPlace_of_mem_rules hr hturns).1
    have hplace' := (isPlace_of_mem_rules hr' hturns').1
    rw [hi] at hplace
    rw [hj] at hplace'
    exact clear_place hij hplace hplace'
  · intro old new old' new' hturns hturns'
    rw [(isPlace_of_mem_rules hr hturns).2]
    exact (h.clear_markup hs ht (isPlace_of_mem_rules hr' hturns').1).1
  · intro old new old' new' hturns hturns'
    rw [(isPlace_of_mem_rules hr hturns).2]
    exact (h.clear_markup hs ht (isPlace_of_mem_rules hr' hturns').1).2

theorem Inert.substitute_eq_apply {n : Nat} {markup : Segment -> List Char}
    {segments : List Segment} (h : Inert n markup segments) (text : List Char) :
    substitute markup segments text =
      (Rule.firstOf (segments.flatMap (Segment.rules markup)) h.pairwise_flatMap).apply text := by
  have hfind : forall (list : List Segment), (∀ s ∈ list, s.Numbered n) -> forall text,
      (list.findSome? fun s => (s.after? text).map fun rest => (markup s, rest)) =
        (list.flatMap (Segment.rules markup)).findSome? fun r => r.find? text := by
    intro list hlist text
    induction list with
    | nil => rfl
    | cons s list ih =>
        rw [List.findSome?_cons, List.flatMap_cons, List.findSome?_append,
          ← map_after?_eq_findSome? (hlist s List.mem_cons_self),
          ← ih fun t ht => hlist t (List.mem_cons_of_mem s ht)]
        cases (s.after? text).map fun rest => (markup s, rest) <;> rfl
  simp only [substitute, hfind segments h.numbered]
  rfl

theorem Inert.foldl_putBack {n : Nat} {markup : Segment -> List Char} {segments : List Segment}
    (h : Inert n markup segments) (text : List Char) :
    segments.foldl (fun text s => putBack (markup s) text s) text =
      substitute markup segments text := by
  have hfold : forall (list : List Segment), (∀ s ∈ list, s.Numbered n) -> forall text,
      list.foldl (fun text s => putBack (markup s) text s) text =
        (list.flatMap (Segment.rules markup)).foldl (fun text r => r.apply text) text := by
    intro list hlist
    induction list with
    | nil =>
        intro text
        rfl
    | cons s list ih =>
        intro text
        rw [List.foldl_cons, List.flatMap_cons, List.foldl_append,
          putBack_eq_foldl (hlist s List.mem_cons_self)]
        exact ih (fun t ht => hlist t (List.mem_cons_of_mem s ht)) _
  rw [hfold segments h.numbered, Rule.foldl_apply _ h.pairwise_flatMap, h.substitute_eq_apply]

theorem Inert.substitute_perm {n : Nat} {markup : Segment -> List Char}
    {segments order : List Segment} (h : Inert n markup segments)
    (horder : order.Perm segments) (text : List Char) :
    substitute markup order text = substitute markup segments text := by
  rw [(h.perm horder).substitute_eq_apply, h.substitute_eq_apply]
  exact Rule.firstOf_apply_perm _ _ (horder.flatMap_right _) text

/-- The one pass writes the markup of a segment in a place of its token. -/
theorem Inert.isPlace_of_turns {n : Nat} {markup : Segment -> List Char}
    {segments : List Segment} (h : Inert n markup segments) {old new : List Char}
    (hturns : (Rule.firstOf (segments.flatMap (Segment.rules markup)) h.pairwise_flatMap).Turns
      old new) :
    ∃ s ∈ segments, IsPlace s.token old ∧ new = markup s := by
  rcases hturns with ⟨r, hr, hturns⟩
  rcases List.mem_flatMap.1 hr with ⟨s, hs, hr⟩
  exact ⟨s, hs, isPlace_of_mem_rules hr hturns⟩

theorem Inert.not_occurs_substitute {n : Nat} {markup : Segment -> List Char}
    {segments : List Segment} (h : Inert n markup segments) {t : Segment} (ht : t ∈ segments)
    (text : List Char) : occurs t.token (substitute markup segments text) = false := by
  rw [h.substitute_eq_apply]
  rcases exists_rule_token markup (h.numbered t ht) with ⟨r, hr, hturns⟩
  have hclear : forall old new,
      (Rule.firstOf (segments.flatMap (Segment.rules markup)) h.pairwise_flatMap).Turns old new ->
        Clear t.token new ∧ Clear new t.token.tail := by
    intro old new hall
    rcases h.isPlace_of_turns hall with ⟨s, hs, -, hnew⟩
    rw [hnew]
    exact h.clear_markup hs ht (Or.inl rfl)
  have htoken : (Rule.firstOf _ h.pairwise_flatMap).Turns t.token (markup t) :=
    ⟨r, List.mem_flatMap.2 ⟨t, ht, hr⟩, hturns⟩
  exact Rule.not_occurs_apply _ htoken (fun old new hall => (hclear old new hall).1)
    (fun old new hall => (hclear old new hall).2) text

/-- The one pass over two texts is the one pass over each, if there is a seam between them. -/
theorem Inert.substitute_append {n : Nat} {markup : Segment -> List Char}
    {segments : List Segment} (h : Inert n markup segments) {a b : List Char}
    (hseam : Seam n a b) :
    substitute markup segments (a ++ b) =
      substitute markup segments a ++ substitute markup segments b := by
  simp only [h.substitute_eq_apply]
  apply Rule.apply_append
  intro old new hturns
  rcases h.isPlace_of_turns hturns with ⟨s, hs, hplace, -⟩
  rcases h.numbered s hs with ⟨i, hi⟩
  rw [hi] at hplace
  exact hseam i old hplace

theorem Inert.substitute_of_not_occurs {n : Nat} {markup : Segment -> List Char}
    {segments : List Segment} (h : Inert n markup segments) {text : List Char}
    (htext : ∀ s ∈ segments, occurs s.token text = false) :
    substitute markup segments text = text := by
  rw [h.substitute_eq_apply]
  apply Rule.apply_of_not_occurs
  intro old new hturns
  rcases h.isPlace_of_turns hturns with ⟨s, hs, hplace, -⟩
  exact hplace.not_occurs (htext s hs)

/-!
## The segments of a source
-/

theorem not_occurs_trim {w s : List Char} (h : occurs w s = false) : occurs w (trim s) = false := by
  rcases dropRightWhile_append isBlank (s.dropWhile isBlank) with ⟨tail, htail, -⟩
  have hs := List.takeWhile_append_dropWhile (p := isBlank) (l := s)
  rw [htail] at hs
  rw [← hs] at h
  exact not_occurs_of_append_left (not_occurs_of_append_right h)

/-- Math that is left to the page holds a token, in whatever letter case, only if its
expression does. -/
theorem occurs_deferred {w : List Char} {n i : Nat} (hw : SameLetters w (tokenOf (stemOf n) i))
    (expression : List Char) (display : Bool) :
    occurs w ((deferred expression display).markupFor expression display) =
      occurs w (trim expression) := by
  have hinside : forall before after : List Char, Clear ['m', 'd'] (lowered before) ->
      Clear ['m', 'd'] (lowered after) ->
      occurs w (before ++ (Html.escapeText (trim expression) ++ '\\' :: after)) =
        occurs w (trim expression) := by
    intro before after hbefore hafter
    rw [(clear_of_clear_start hw hbefore).occurs_append,
      occurs_append_cons (ne_nil_of_sameLetters hw) (notMem_of_sameLetters hw (by decide)),
      (clear_of_clear_start hw hafter).not_occurs (ne_nil_of_sameLetters hw), Bool.or_false]
    exact occurs_escaped hw textChar_eq_or _
  cases display with
  | true =>
      have := hinside ("<div class=\"math-display\" dir=\"ltr\">".toList ++ "\\[".toList)
        ("]".toList ++ "</div>".toList) (by decide) (by decide)
      rw [List.append_assoc] at this
      simp only [deferred, if_true, Outcome.markupFor, wrap, List.append_assoc]
      exact this
  | false =>
      have := hinside ("<span class=\"math-inline\" dir=\"ltr\">".toList ++ "\\(".toList)
        (")".toList ++ "</span>".toList) (by decide) (by decide)
      rw [List.append_assoc] at this
      simp only [deferred, Bool.false_eq_true, if_false, Outcome.markupFor, wrap, List.append_assoc]
      exact this

theorem not_occurs_expression {w : List Char} {s : Segment} (h : occurs w s.source = false) :
    occurs w s.expression = false := by
  rw [Segment.source] at h
  exact not_occurs_of_append_right (not_occurs_of_append_left h)

theorem unresolved_eq_nil_iff {segments : List Segment} {s : List Char} :
    unresolved segments s = [] ↔ ∀ x ∈ segments, occurs x.token s = false := by
  rw [unresolved, List.filter_eq_nil_iff, List.forall_mem_map]
  simp only [Bool.not_eq_true]

theorem restoreWith_congr {answer answer' : Segment -> Outcome} {segments : List Segment}
    (h : ∀ s ∈ segments, answer s = answer' s) (text : List Char) :
    restoreWith answer segments text = restoreWith answer' segments text := by
  induction segments generalizing text with
  | nil => rfl
  | cons s segments ih =>
      have hstep := ih (fun t ht => h t (List.mem_cons_of_mem s ht))
        (putBack (s.markupFor (answer s)) text s)
      simp only [restoreWith, List.foldl_cons] at hstep ⊢
      rw [hstep, h s List.mem_cons_self]

/-- Whether the markup that the segments of a source get holds none of their tokens. -/
def HoldsNoToken (answer : Segment -> Outcome) (source : List Char) : Prop :=
  ∀ s ∈ (extract source).segments, ∀ t ∈ (extract source).segments,
    occurs t.token (s.markupFor (answer s)) = false

theorem exists_inert_extract (source : List Char) :
    ∃ n, forall answer : Segment -> Outcome, HoldsNoToken answer source ->
      Inert n (fun s => s.markupFor (answer s)) (extract source).segments := by
  rcases exists_recoverable_extract source with ⟨n, h⟩
  exact ⟨n, fun answer hanswer =>
    { numbered := h.numbered
      distinct := h.distinct
      isElement := fun s _ => isElement_markupFor s.expression s.display (answer s)
      free := hanswer }⟩

/-- Math that is left to the page holds no token. -/
theorem holdsNoToken_deferred (source : List Char) :
    HoldsNoToken (fun s => deferred s.expression s.display) source := by
  rcases exists_recoverable_extract source with ⟨n, h⟩
  intro s hs t ht
  rcases h.numbered t ht with ⟨i, hi⟩
  rw [hi]
  exact (occurs_deferred (SameLetters.refl _) s.expression s.display).trans
    (not_occurs_trim (not_occurs_tokenOf (not_occurs_expression (h.free s hs)) i))

/-- The passes for the segments are one pass, in whatever order they are made. -/
theorem restoreWith_eq_substitute {answer : Segment -> Outcome} {source : List Char}
    (h : HoldsNoToken answer source) {order : List Segment}
    (horder : order.Perm (extract source).segments) (html : List Char) :
    restoreWith answer order html =
      substitute (fun s => s.markupFor (answer s)) (extract source).segments html := by
  rcases exists_inert_extract source with ⟨n, hinert⟩
  have hself := hinert answer h
  rw [restoreWith, (hself.perm horder).foldl_putBack, hself.substitute_perm horder]

theorem unresolved_restoreWith {answer : Segment -> Outcome} {source : List Char}
    (h : HoldsNoToken answer source) (html : List Char) :
    unresolved (extract source).segments (restoreWith answer (extract source).segments html) =
      [] := by
  rcases exists_inert_extract source with ⟨n, hinert⟩
  rw [unresolved_eq_nil_iff, restoreWith_eq_substitute h (List.Perm.refl _)]
  intro t ht
  exact (hinert answer h).not_occurs_substitute ht html

/-- Math is put back in two texts by themselves, if there is a seam between them. -/
theorem restoreWith_append {answer : Segment -> Outcome} {source : List Char}
    (h : HoldsNoToken answer source) {a b : List Char} (hseam : forall n, Seam n a b) :
    restoreWith answer (extract source).segments (a ++ b) =
      restoreWith answer (extract source).segments a ++
        restoreWith answer (extract source).segments b := by
  rcases exists_inert_extract source with ⟨n, hinert⟩
  simp only [restoreWith_eq_substitute h (List.Perm.refl _)]
  exact (hinert answer h).substitute_append (hseam n)

/-- A text stays as it is when math is put back exactly when no token stands in it. -/
theorem restoreWith_eq_self_iff {answer : Segment -> Outcome} {source : List Char}
    (h : HoldsNoToken answer source) (html : List Char) :
    restoreWith answer (extract source).segments html = html ↔
      unresolved (extract source).segments html = [] := by
  constructor
  · intro hself
    rw [← hself]
    exact unresolved_restoreWith h html
  · intro hfree
    rcases exists_inert_extract source with ⟨n, hinert⟩
    rw [restoreWith_eq_substitute h (List.Perm.refl _)]
    exact (hinert answer h).substitute_of_not_occurs (unresolved_eq_nil_iff.1 hfree)

/-- Restoring is one simultaneous substitution. The first part says that math left to the
page always meets the condition of the second one: no markup of a segment holds a token.
Then the passes for the segments give what one pass gives, in whatever order the segments
are taken, and no token is left. -/
theorem restore_extract (source : List Char) :
    (∀ s ∈ (extract source).segments, ∀ t ∈ (extract source).segments,
      occurs t.token (s.markupFor (deferred s.expression s.display)) = false) ∧
    forall (html : List Char) (answer : Segment -> Outcome),
      (∀ s ∈ (extract source).segments, ∀ t ∈ (extract source).segments,
        occurs t.token (s.markupFor (answer s)) = false) ->
      restoreWith answer (extract source).segments html =
          substitute (fun s => s.markupFor (answer s)) (extract source).segments html ∧
        (forall order : List Segment, order.Perm (extract source).segments ->
          restoreWith answer order html = restoreWith answer (extract source).segments html) ∧
        unresolved (extract source).segments
          (restoreWith answer (extract source).segments html) = [] ∧
        (forall setter : Typesetter,
          (∀ s ∈ (extract source).segments, setter s.expression s.display = answer s) ->
          restore (some setter) (extract source).segments html =
            restoreWith answer (extract source).segments html) := by
  refine ⟨holdsNoToken_deferred source, ?_⟩
  intro html answer hanswer
  have hself := restoreWith_eq_substitute hanswer (List.Perm.refl _) html
  refine ⟨hself, ?_, unresolved_restoreWith hanswer html, ?_⟩
  · intro order horder
    rw [restoreWith_eq_substitute hanswer horder, hself]
  · intro setter hsetter
    exact restoreWith_congr hsetter html

/-- A lone display token, an inline one whose typesetter fails, and the first one again. -/
theorem restore_extract_two_segments :
    restoreWith (fun s => if s.display then .markup "y".toList else .failure "E".toList [])
        (extract "$$b$$ $a$".toList).segments
        "<p> MDCMATH0X </p>MDCMATH1X MDCMATH0X".toList =
      substitute (fun s => s.markupFor
          (if s.display then .markup "y".toList else .failure "E".toList []))
        (extract "$$b$$ $a$".toList).segments
        "<p> MDCMATH0X </p>MDCMATH1X MDCMATH0X".toList := by
  refine ((restore_extract "$$b$$ $a$".toList).2 _ _ ?_).1
  decide +kernel

end Math
end Folio
