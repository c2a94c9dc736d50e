import Folio.Proofs.Html.Standing
import Folio.Proofs.Math.Substitution

/-!
# Math beside anchors

Where math is put back, a tag with an anchor stands as often outside of comments as before:
neither a place of a token nor the markup of math that is left to the page counts for
anything, and no place starts inside the tag or the marks of a comment.
-/

namespace Folio

open Text Html

namespace Text

/-- A rule that rewrites what counts for nothing into what counts for nothing, at places
that start with an opening angle or the first letter of a token. -/
def Rule.Unseen (w : List Char) (r : Rule) : Prop :=
  forall old new, r.Turns old new -> Neutral w old ∧ Neutral w new ∧
    (old.head? = some '<' ∨ old.head? = some 'M') ∧ new.head? = some '<'

theorem clear_of_head {old s : List Char} {c : Char} (hold : old.head? = some c) (hs : c ∉ s) :
    Clear old s := by
  cases old with
  | nil => cases hold
  | cons d old =>
      cases hold
      exact clear_of_notMem hs

/-- A rule whose places start with an opening angle or the first letter of a token, and whose
new texts start with an opening angle. -/
def Rule.Marked (r : Rule) : Prop :=
  forall old new, r.Turns old new ->
    (old.head? = some '<' ∨ old.head? = some 'M') ∧ new.head? = some '<'

theorem Rule.Unseen.marked {w : List Char} {r : Rule} (h : r.Unseen w) : r.Marked :=
  fun old new hturns => (h old new hturns).2.2

/-- Such a rule leaves the start of a text alone. -/
theorem Rule.Marked.startsWith_apply {v : List Char} {r : Rule} (h : r.Marked)
    (hopen : '<' ∉ v) (hM : 'M' ∉ v) (s : List Char) :
    startsWith v (r.apply s) = startsWith v s := by
  refine Rule.startsWith_apply r (fun old new hturns => ⟨?_, ?_⟩) s
  · rcases (h old new hturns).1 with hold | hold
    · exact clear_of_head hold hopen
    · exact clear_of_head hold hM
  · exact clear_of_head (h old new hturns).2 hopen

theorem Rule.Marked.startsWith_cons_apply {p : List Char} {r : Rule} (h : r.Marked)
    (hopen : '<' ∉ p.tail) (hM : 'M' ∉ p.tail) (c : Char) (s : List Char) :
    startsWith p (c :: r.apply s) = startsWith p (c :: s) := by
  cases p with
  | nil => rw [startsWith, startsWith, dropPrefix?_nil, dropPrefix?_nil]; rfl
  | cons d p =>
      by_cases hc : c = d
      · rw [hc, startsWith_cons_self, startsWith_cons_self]
        exact h.startsWith_apply hopen hM s
      · rw [startsWith_cons_of_ne hc, startsWith_cons_of_ne hc]

theorem Rule.Unseen.scan_apply {w : List Char} {r : Rule} (hw : IsTag w) (hM : 'M' ∉ w)
    (h : r.Unseen w) (inside : Bool) (s : List Char) :
    Html.scan w inside (r.apply s) = Html.scan w inside s := by
  have hopen : '<' ∉ w.tail := by
    rcases hw with ⟨inner, rfl, hinner⟩
    simp [hinner.flat.1]
  have htail : 'M' ∉ w.tail := fun hmem => hM (List.mem_of_mem_tail hmem)
  -- A place counts for nothing as a whole. In front of any other character the text starts
  -- with a mark of a comment, or with `w`, if and only if it does after the rewriting.
  induction s using r.scan generalizing inside with
  | nil => rfl
  | hit old new rest hold ih =>
      rcases h old new hold with ⟨hplace, hnew, -⟩
      rw [r.apply_append_of_turns hold, hnew, hplace, ih]
  | step c rest hnone ih =>
      have hafter : commentAfter inside (c :: r.apply rest) = commentAfter inside (c :: rest) := by
        rw [commentAfter, commentAfter, h.marked.startsWith_cons_apply (by decide) (by decide),
          h.marked.startsWith_cons_apply (by decide) (by decide)]
      rw [r.apply_cons_of_none hnone, Html.scan, hafter, ih,
        h.marked.startsWith_cons_apply hopen htail, Html.scan]

end Text

namespace Math

/-- Whether a text is a tag whose first attribute is an anchor, and holds no first letter of
a token. -/
structure Bears (w : List Char) : Prop where
  isTag : IsTag w
  anchor : (w.dropWhile (· ≠ ' ')).take 4 = " id=".toList
  free : 'M' ∉ w

theorem Bears.ne {w t : List Char} (hw : Bears w)
    (ht : (t.dropWhile (· ≠ ' ')).take 4 ≠ " id=".toList) : t ≠ w := by
  rintro rfl
  exact ht hw.anchor

/-- An element with text in it counts for nothing, if neither of its tags does. -/
theorem neutral_element {w first last : List Char} (hw : Bears w) (hfirst : IsTag first)
    (hlast : IsTag last) (hne : (first.dropWhile (· ≠ ' ')).take 4 ≠ " id=".toList)
    (hne' : (last.dropWhile (· ≠ ' ')).take 4 ≠ " id=".toList) {text : List Char}
    (htext : Flat text) : Neutral w (first ++ (text ++ last)) := by
  have hback := neutral_tag hw.isTag hlast (hw.ne hne')
  refine (neutral_tag hw.isTag hfirst (hw.ne hne)).append ?_
  rcases hlast with ⟨inner, rfl, -⟩
  exact Neutral.text hw.isTag htext hback

theorem neutral_place {w place : List Char} (hw : Bears w) {n i : Nat}
    (h : IsPlace (tokenOf (stemOf n) i) place) : Neutral w place := by
  have htoken : forall c, isTokenChar c = false -> c ∉ tokenOf (stemOf n) i := fun c hc =>
    notMem_tokenOf hc n i
  rcases h with rfl | ⟨before, after, hbefore, hafter, rfl⟩
  · exact neutral_of_notMem hw.isTag (htoken '<' (by decide)) (htoken '-' (by decide))
  · have hinside : forall c, isBlank c = false -> isTokenChar c = false ->
        c ∉ before ++ (tokenOf (stemOf n) i ++ after) := by
      intro c hblank hc
      simp [htoken c hc, notMem_of_allBlank hblank hbefore, notMem_of_allBlank hblank hafter]
    have hfirst : IsTag "<p>".toList :=
      ⟨['p'], rfl, by decide, by decide, by decide⟩
    have hlast : IsTag "</p>".toList :=
      ⟨['/', 'p'], rfl, by decide, by decide, by decide⟩
    have helement := neutral_element hw hfirst hlast (by decide) (by decide)
      ⟨hinside '<' (by decide) (by decide), hinside '>' (by decide) (by decide)⟩
    rw [List.append_assoc, List.append_assoc] at helement
    exact helement

theorem neutral_escaped {w first last : List Char} (hw : Bears w)
    (hfirst : IsTag first) (hlast : IsTag last)
    (hne : (first.dropWhile (· ≠ ' ')).take 4 ≠ " id=".toList)
    (hne' : (last.dropWhile (· ≠ ' ')).take 4 ≠ " id=".toList) {left right : List Char}
    (hleft : Flat left) (hright : Flat right) (s : List Char) :
    Neutral w (first ++ (left ++ escapeText s ++ right) ++ last) := by
  rw [List.append_assoc first]
  exact neutral_element hw hfirst hlast hne hne' ((hleft.append (flat_escapeText s)).append hright)

theorem neutral_deferred {w : List Char} (hw : Bears w) (expression : List Char)
    (display : Bool) :
    Neutral w ((deferred expression display).markupFor expression display) := by
  cases display with
  | true =>
      have hfirst : IsTag "<div class=\"math-display\" dir=\"ltr\">".toList :=
        ⟨"div class=\"math-display\" dir=\"ltr\"".toList, rfl, by decide, by decide,
          by decide⟩
      have hlast : IsTag "</div>".toList :=
        ⟨"/div".toList, rfl, by decide, by decide, by decide⟩
      have hleft : Flat "\\[".toList := by decide
      have hright : Flat "\\]".toList := by decide
      exact neutral_escaped hw hfirst hlast (by decide) (by decide) hleft hright _
  | false =>
      have hfirst : IsTag "<span class=\"math-inline\" dir=\"ltr\">".toList :=
        ⟨"span class=\"math-inline\" dir=\"ltr\"".toList, rfl, by decide, by decide,
          by decide⟩
      have hlast : IsTag "</span>".toList :=
        ⟨"/span".toList, rfl, by decide, by decide, by decide⟩
      have hleft : Flat "\\(".toList := by decide
      have hright : Flat "\\)".toList := by decide
      exact neutral_escaped hw hfirst hlast (by decide) (by decide) hleft hright _

/-- To put math back that is left to the page is to follow one rule: it turns places of tokens
into the markup of math. -/
theorem exists_rule_restore (source : List Char) :
    exists r : Rule, r.Marked ∧
      (forall html, restore (some deferred) (extract source).segments html = r.apply html) ∧
      forall old new, r.Turns old new ->
        (exists n i, IsPlace (tokenOf (stemOf n) i) old) ∧
          exists expression display,
            new = (deferred expression display).markupFor expression display := by
  have hanswer := holdsNoToken_deferred source
  rcases exists_inert_extract source with ⟨n, hinert⟩
  have hself := hinert _ hanswer
  refine ⟨Rule.firstOf _ hself.pairwise_flatMap, ?_, fun html => ?_, ?_⟩
  · intro old new hturns
    rcases hself.isPlace_of_turns hturns with ⟨s, hs, hplace, hnew⟩
    constructor
    · rcases hself.numbered s hs with ⟨i, hi⟩
      rw [hi] at hplace
      rcases hplace with rfl | ⟨before, after, -, -, rfl⟩
      · exact Or.inr rfl
      · exact Or.inl rfl
    · rcases (hself.isElement s hs).opens with ⟨c, rest, hopens, -⟩
      rw [hnew, hopens]
      rfl
  · rw [restore, restoreWith_eq_substitute hanswer (List.Perm.refl _), hself.substitute_eq_apply]
  · intro old new hturns
    rcases hself.isPlace_of_turns hturns with ⟨s, hs, hplace, hnew⟩
    rcases hself.numbered s hs with ⟨i, hi⟩
    exact ⟨⟨n, i, hi ▸ hplace⟩, s.expression, s.display, hnew⟩

/-- A tag with an anchor stands as often outside of comments once math is put back as it did
before. -/
theorem scan_restore {w : List Char} (hw : Bears w) (source : List Char) (inside : Bool)
    (html : List Char) :
    scan w inside (restore (some deferred) (extract source).segments html) =
      scan w inside html := by
  rcases exists_rule_restore source with ⟨r, hmarked, hrestore, hturn⟩
  rw [hrestore]
  refine Rule.Unseen.scan_apply hw.isTag hw.free ?_ inside html
  intro old new hturns
  rcases hturn old new hturns with ⟨⟨n, i, hplace⟩, expression, display, hnew⟩
  exact ⟨neutral_place hw hplace, hnew ▸ neutral_deferred hw expression display,
    hmarked old new hturns⟩

end Math
end Folio
