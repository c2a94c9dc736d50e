import Folio.Math.Restore
import Folio.Proofs.Math.Token

/-!
# Places of tokens

A token stands in finished markup by itself or alone in a paragraph. Both are places
that the markup of its segment takes. Places of different tokens do not reach into each
other, and no place starts in the markup of a segment that holds no token.
-/

namespace Folio
namespace Math

open Text

/-!
## Lone paragraphs
-/

/-- A paragraph that holds a token between blanks, and nothing else. -/
def loneText (before token after : List Char) : List Char :=
  "<p>".toList ++ (before ++ (token ++ (after ++ "</p>".toList)))

/-- Whether a text starts with a character that is no blank. -/
def startsSolid : List Char -> Bool
  | [] => false
  | c :: _ => !isBlank c

theorem dropWhile_blank_append {blanks s : List Char} (h : allBlank blanks = true)
    (hs : startsSolid s = true) : (blanks ++ s).dropWhile isBlank = s := by
  cases s with
  | nil => cases hs
  | cons c s =>
      rw [List.dropWhile_append_of_pos (fun a ha => List.all_eq_true.1 h a ha)]
      have hc : ¬ isBlank c = true := by
        simpa [startsSolid] using hs
      rw [List.dropWhile_cons_of_neg hc]

/-- The end of a lone paragraph from its token on. -/
theorem closing_eq_some_iff {token s rest : List Char} :
    ((dropPrefix? token s).bind fun rest =>
        dropPrefix? "</p>".toList (rest.dropWhile isBlank)) = some rest ↔
      exists after, allBlank after = true ∧ s = token ++ (after ++ ("</p>".toList ++ rest)) := by
  rw [Option.bind_eq_some_iff]
  constructor
  · intro h
    rcases h with ⟨x, hx, hrest⟩
    rw [dropPrefix?_eq_some_iff] at hx hrest
    refine ⟨x.takeWhile isBlank, ?_, ?_⟩
    · exact List.all_takeWhile
    · rw [hx, ← hrest, List.takeWhile_append_dropWhile]
  · intro h
    rcases h with ⟨after, hafter, hs⟩
    refine ⟨after ++ ("</p>".toList ++ rest), dropPrefix?_eq_some_iff.2 hs, ?_⟩
    rw [dropWhile_blank_append hafter (by rfl), dropPrefix?_eq_some_iff]

theorem loneTail?_cons_of_blank {token s : List Char} {c : Char}
    (htoken : startsSolid token = true) (hc : isBlank c = true) :
    loneTail? token (c :: s) = loneTail? token s := by
  cases token with
  | nil => cases htoken
  | cons d token =>
      have hne : d ≠ c := by
        intro h
        subst h
        simp [startsSolid, hc] at htoken
      have hnone : dropPrefix? (d :: token) (c :: s) = none := by
        rw [dropPrefix?, if_neg hne]
      simp only [loneTail?, hc, hnone, if_true]
      cases loneTail? (d :: token) s <;> rfl

theorem loneTail?_of_solid {token s : List Char} (hs : startsSolid s = true) :
    loneTail? token s = (dropPrefix? token s).bind fun rest =>
      dropPrefix? "</p>".toList (rest.dropWhile isBlank) := by
  cases s with
  | nil => cases hs
  | cons c s =>
      have hc : isBlank c = false := by simpa [startsSolid] using hs
      simp only [loneTail?, hc, Bool.false_eq_true, if_false]
      rfl

/-- Blanks are passed over up to the token, so there is one way to read a lone paragraph. -/
theorem loneTail?_eq_some_iff {token s rest : List Char} (htoken : startsSolid token = true) :
    loneTail? token s = some rest ↔
      exists before after, allBlank before = true ∧ allBlank after = true ∧
        s = before ++ (token ++ (after ++ ("</p>".toList ++ rest))) := by
  have hclosed : forall after,
      startsSolid (token ++ (after ++ ("</p>".toList ++ rest))) = true := by
    intro after
    cases token with
    | nil => cases htoken
    | cons c token => exact htoken
  induction s with
  | nil =>
      constructor
      · intro h
        cases token with
        | nil => cases htoken
        | cons c token => cases h
      · intro h
        rcases h with ⟨before, after, -, -, hs⟩
        have hnil := (List.append_eq_nil_iff.1 hs.symm).2
        have := hclosed after
        rw [hnil] at this
        cases this
  | cons c s ih =>
      cases hc : isBlank c with
      | false =>
          rw [loneTail?_of_solid (by simp [startsSolid, hc]), closing_eq_some_iff]
          constructor
          · intro h
            rcases h with ⟨after, hafter, hs⟩
            exact ⟨[], after, rfl, hafter, hs⟩
          · intro h
            rcases h with ⟨before, after, hbefore, hafter, hs⟩
            cases before with
            | nil => exact ⟨after, hafter, hs⟩
            | cons d before =>
                rw [List.cons_append, List.cons.injEq] at hs
                rw [allBlank, List.all_cons, ← hs.1, hc] at hbefore
                cases hbefore
      | true =>
          rw [loneTail?_cons_of_blank htoken hc]
          refine ih.trans ⟨?_, ?_⟩
          · intro h
            rcases h with ⟨before, after, hbefore, hafter, rfl⟩
            refine ⟨c :: before, after, ?_, hafter, rfl⟩
            rw [allBlank, List.all_cons, hc]
            exact hbefore
          · intro h
            rcases h with ⟨before, after, hbefore, hafter, hs⟩
            cases before with
            | nil =>
                have := hclosed after
                rw [List.nil_append] at hs
                rw [← hs, startsSolid, hc] at this
                cases this
            | cons d before =>
                rw [List.cons_append, List.cons.injEq] at hs
                rw [allBlank, List.all_cons, Bool.and_eq_true] at hbefore
                exact ⟨before, after, hbefore.2, hafter, hs.2⟩

theorem loneParagraph?_eq_some_iff {token s rest : List Char}
    (htoken : startsSolid token = true) :
    loneParagraph? token s = some rest ↔
      exists before after, allBlank before = true ∧ allBlank after = true ∧
        s = loneText before token after ++ rest := by
  rw [loneParagraph?, Option.bind_eq_some_iff]
  constructor
  · intro h
    rcases h with ⟨x, hx, hrest⟩
    rcases (loneTail?_eq_some_iff htoken).1 hrest with ⟨before, after, hbefore, hafter, rfl⟩
    refine ⟨before, after, hbefore, hafter, ?_⟩
    rw [dropPrefix?_eq_some_iff.1 hx]
    simp only [loneText, List.append_assoc]
  · intro h
    rcases h with ⟨before, after, hbefore, hafter, hs⟩
    refine ⟨before ++ (token ++ (after ++ ("</p>".toList ++ rest))), ?_, ?_⟩
    · rw [dropPrefix?_eq_some_iff, hs]
      simp only [loneText, List.append_assoc]
    · exact (loneTail?_eq_some_iff htoken).2 ⟨before, after, hbefore, hafter, rfl⟩

/-- The rule that turns lone paragraphs of a token into its markup. -/
def loneRule (token markup : List Char) : Rule where
  find? s :=
    if startsSolid token then (loneParagraph? token s).map fun rest => (markup, rest) else none
  Turns old new :=
    startsSolid token = true ∧ new = markup ∧
      exists before after, allBlank before = true ∧ allBlank after = true ∧
        old = loneText before token after
  find?_eq_some_iff := by
    intro s new rest
    cases htoken : startsSolid token with
    | false => simp
    | true =>
        simp only [if_true, Option.map_eq_some_iff, Prod.mk.injEq]
        constructor
        · intro h
          rcases h with ⟨x, hx, rfl, rfl⟩
          rcases (loneParagraph?_eq_some_iff htoken).1 hx with ⟨before, after, hbefore, hafter, hs⟩
          exact ⟨_, ⟨trivial, rfl, before, after, hbefore, hafter, rfl⟩, hs⟩
        · intro h
          rcases h with ⟨old, ⟨-, rfl, before, after, hbefore, hafter, rfl⟩, hs⟩
          exact ⟨rest, (loneParagraph?_eq_some_iff htoken).2 ⟨before, after, hbefore, hafter, hs⟩,
            rfl, rfl⟩
  ne_nil := by
    intro old new hturns h
    rcases hturns with ⟨-, -, before, after, -, -, rfl⟩
    cases h

theorem apply_loneRule {token : List Char} (htoken : startsSolid token = true)
    (markup s : List Char) : (loneRule token markup).apply s = replaceLone token markup s := by
  simp only [Rule.apply, loneRule, replaceLone, htoken, if_true]

/-!
## Places that reach into each other
-/

/-- Whether a text is a place of a token: the token, or a lone paragraph of it. -/
def IsPlace (token place : List Char) : Prop :=
  place = token ∨ exists before after, allBlank before = true ∧ allBlank after = true ∧
    place = loneText before token after

theorem IsPlace.not_occurs {token place s : List Char} (h : IsPlace token place)
    (hs : occurs token s = false) : occurs place s = false := by
  rw [Bool.eq_false_iff] at hs ⊢
  intro hin
  rcases occurs_iff.1 hin with ⟨before, after, rfl⟩
  rcases h with rfl | ⟨b, a, -, -, rfl⟩
  · exact hs hin
  · refine hs (occurs_iff.2 ⟨before ++ ("<p>".toList ++ b), a ++ ("</p>".toList ++ after), ?_⟩)
    simp only [loneText, List.append_assoc]

theorem notMem_of_allBlank {c : Char} {s : List Char} (hc : isBlank c = false)
    (hs : allBlank s = true) : c ∉ s := by
  intro h
  have := List.all_eq_true.1 hs c h
  rw [hc] at this
  cases this

/-- Blanks in front do not matter to two texts that start alike. -/
theorem meets_of_meets_blank {a b x y : List Char} (ha : allBlank a = true)
    (hb : allBlank b = true) (hx : startsSolid x = true) (hy : startsSolid y = true)
    (h : Meets (a ++ x) (b ++ y)) : Meets x y := by
  induction a generalizing b with
  | nil =>
      cases b with
      | nil => exact h
      | cons d b =>
          cases x with
          | nil => cases hx
          | cons c x =>
              have hcd := (meets_cons_cons.1 h).1
              rw [allBlank, List.all_cons, Bool.and_eq_true, ← hcd] at hb
              rw [startsSolid, hb.1] at hx
              cases hx
  | cons c a ih =>
      rw [allBlank, List.all_cons, Bool.and_eq_true] at ha
      cases b with
      | nil =>
          cases y with
          | nil => cases hy
          | cons d y =>
              have hcd := (meets_cons_cons.1 h).1
              rw [startsSolid, ← hcd, ha.1] at hy
              cases hy
      | cons d b =>
          rw [allBlank, List.all_cons, Bool.and_eq_true] at hb
          exact ih ha.2 hb.2 (meets_cons_cons.1 h).2

theorem startsSolid_tokenOf_append (n i : Nat) (s : List Char) :
    startsSolid (tokenOf (stemOf n) i ++ s) = true :=
  rfl

/-- Inside a lone paragraph an angle stands only in front of its closing tag. -/
theorem clear_loneText_tail {w before after : List Char} {n j : Nat}
    (hbefore : allBlank before = true) (hafter : allBlank after = true)
    (hw : ¬ Meets ['/', 'p', '>'] w) :
    Clear ('<' :: w) (loneText before (tokenOf (stemOf n) j) after).tail := by
  have hopen : (loneText before (tokenOf (stemOf n) j) after).tail =
      ['p', '>'] ++ (before ++ (tokenOf (stemOf n) j ++ (after ++ '<' :: ['/', 'p', '>']))) := rfl
  rw [hopen]
  refine (clear_of_notMem (by decide)).append ?_
  refine (clear_of_notMem (notMem_of_allBlank (by decide) hbefore)).append ?_
  refine (clear_of_notMem (notMem_tokenOf (by decide) n j)).append ?_
  refine (clear_of_notMem (notMem_of_allBlank (by decide) hafter)).append ⟨?_, ?_⟩
  · intro h
    exact hw (meets_cons_cons.1 h).2
  · exact clear_of_notMem (by decide)

theorem not_meets_closing {c : Char} {w : List Char} (hc : c ≠ '/') :
    ¬ Meets ['/', 'p', '>'] (c :: w) := by
  intro h
  exact hc (meets_cons_cons.1 h).1.symm

/-- A place of one token reaches into no place of another. -/
theorem clear_place {n i j : Nat} {p q : List Char} (hij : i ≠ j)
    (hp : IsPlace (tokenOf (stemOf n) i) p) (hq : IsPlace (tokenOf (stemOf n) j) q) :
    Clear p q := by
  rcases hp with rfl | ⟨b, a, hb, ha, rfl⟩
  · rcases hq with rfl | ⟨b', a', hb', ha', rfl⟩
    · exact clear_token hij
    · have hM : forall s : List Char, 'M' ∉ s -> Clear (tokenOf (stemOf n) i) s := fun s hs =>
        clear_of_notMem (w := (tokenOf (stemOf n) i).tail) hs
      refine (hM _ (by decide)).append ?_
      refine (hM _ (notMem_of_allBlank (by decide) hb')).append ?_
      refine (clear_token hij).append ?_
      exact (hM _ (notMem_of_allBlank (by decide) ha')).append (hM _ (by decide))
  · rcases hq with rfl | ⟨b', a', hb', ha', rfl⟩
    · exact clear_of_notMem (notMem_tokenOf (by decide) n j)
    · refine ⟨?_, clear_loneText_tail (n := n) (j := j) hb' ha' (not_meets_closing (by decide))⟩
      intro h
      have hinner : Meets (b' ++ (tokenOf (stemOf n) j ++ (a' ++ "</p>".toList)))
          (b ++ (tokenOf (stemOf n) i ++ (a ++ "</p>".toList))) :=
        (meets_append_left_iff (p := "<p>".toList)).1 h
      have htokens := meets_of_meets_blank hb' hb (startsSolid_tokenOf_append n j _)
        (startsSolid_tokenOf_append n i _) hinner
      exact not_meets_tokenOf hij (htokens.of_append_left.of_append_right).symm

/-!
## Markup of segments
-/

/-- Whether a text begins with an opening tag and ends with a closing one, neither of a
paragraph. -/
structure IsElement (markup : List Char) : Prop where
  opens : exists c rest, markup = '<' :: c :: rest ∧ c ≠ '/'
  closes : exists front c, markup = front ++ [c, '>'] ∧ c ≠ 'p'

theorem isElement_append (first : List Char) {last : List Char} {c d : Char}
    (hfirst : first.head? = some '<') (hc : first[1]? = some c) (hopens : c ≠ '/')
    (hlast : exists front, last = front ++ [d, '>']) (hcloses : d ≠ 'p') (s : List Char) :
    IsElement (first ++ s ++ last) := by
  rcases hlast with ⟨front, hlast⟩
  match first, hfirst, hc with
  | _ :: _ :: rest, hfirst, hc =>
      cases hfirst
      cases hc
      exact ⟨⟨c, rest ++ s ++ last, by simp, hopens⟩,
        ⟨_ ++ s ++ front, d, by rw [hlast, ← List.append_assoc], hcloses⟩⟩

theorem isElement_markupFor (expression : List Char) (display : Bool) (outcome : Outcome) :
    IsElement (outcome.markupFor expression display) := by
  have hspan : exists front, "</span>".toList = front ++ ['n', '>'] := ⟨"</spa".toList, rfl⟩
  have herror : forall expression reason, IsElement (errorMarker expression reason) := by
    intro expression reason
    have := isElement_append "<span class=\"math-error\" dir=\"ltr\" title=\"".toList
      rfl rfl (by decide) hspan (by decide)
      (Html.escapeAttribute reason ++ ("\">".toList ++ Html.escapeAttribute expression))
    rwa [← List.append_assoc, ← List.append_assoc] at this
  cases outcome with
  | markup s =>
      cases display with
      | true => exact isElement_append _ rfl rfl (by decide) ⟨"</di".toList, rfl⟩ (by decide) s
      | false => exact isElement_append _ rfl rfl (by decide) hspan (by decide) s
  | noMarkup => exact herror _ _
  | failure kind message => exact herror _ _

/-- In a lone paragraph each closing angle belongs to a tag of the paragraph. -/
theorem eq_of_prefix_loneText {x before after rest : List Char} {c : Char} {n i : Nat}
    (hbefore : allBlank before = true) (hafter : allBlank after = true)
    (h : (x ++ [c, '>']) ++ rest = loneText before (tokenOf (stemOf n) i) after) : c = 'p' := by
  have hsplit : loneText before (tokenOf (stemOf n) i) after =
      '<' :: 'p' :: '>' :: ((before ++ (tokenOf (stemOf n) i ++ (after ++ ['<', '/', 'p']))) ++
        ['>']) := by
    simp only [loneText, List.append_assoc]
    rfl
  have hmiddle : '>' ∉ before ++ (tokenOf (stemOf n) i ++ (after ++ ['<', '/', 'p'])) := by
    simp only [List.mem_append, not_or]
    exact ⟨notMem_of_allBlank (by decide) hbefore, notMem_tokenOf (by decide) n i,
      notMem_of_allBlank (by decide) hafter, by decide⟩
  rw [hsplit, List.append_assoc] at h
  match x, h with
  | [], h => cases h
  | [_], h =>
      simp only [List.cons_append, List.nil_append, List.cons.injEq] at h
      exact h.2.1
  | [_, _], h =>
      simp only [List.cons_append, List.nil_append, List.cons.injEq] at h
      rcases h with ⟨-, -, -, hrest⟩
      cases hhead : before ++ (tokenOf (stemOf n) i ++ (after ++ ['<', '/', 'p'])) with
      | nil => simp [tokenOf_ne_nil] at hhead
      | cons d middle =>
          rw [hhead, List.cons_append, List.cons.injEq] at hrest
          rw [hhead, ← hrest.1] at hmiddle
          exact absurd List.mem_cons_self hmiddle
  | _ :: _ :: _ :: x, h =>
      simp only [List.cons_append, List.cons.injEq] at h
      rcases h with ⟨-, -, -, hrest⟩
      have hends : (x ++ [c]) ++ ('>' :: rest) =
          (before ++ (tokenOf (stemOf n) i ++ (after ++ ['<', '/', 'p']))) ++ ['>'] := by
        rw [← hrest]
        simp
      rcases List.append_eq_append_iff.1 hends with ⟨y, hy, hrest'⟩ | ⟨y, hy, hrest'⟩
      · cases y with
        | nil =>
            have := congrArg List.getLast? hy
            simpa using this.symm
        | cons d y =>
            rw [List.cons_append, List.cons.injEq] at hrest'
            rw [hy, ← hrest'.1] at hmiddle
            exact absurd (List.mem_append_right _ List.mem_cons_self) hmiddle
      · cases y with
        | nil =>
            have := congrArg List.getLast? hy
            simpa using this
        | cons d y =>
            rw [List.cons_append, List.cons.injEq] at hrest'
            exact absurd hrest'.2.symm (by simp)

theorem eq_or_exists_of_append_eq {front start y : List Char} {c d : Char}
    (h : front ++ [c, d] = start ++ y) (hy : y ≠ []) : y = [d] ∨ exists x, y = x ++ [c, d] := by
  rcases List.append_eq_append_iff.1 h with ⟨t, -, ht⟩ | ⟨t, -, ht⟩
  · match t, ht with
    | [], ht => exact Or.inr ⟨[], ht.symm⟩
    | [_], ht =>
        simp only [List.cons_append, List.nil_append, List.cons.injEq] at ht
        exact Or.inl ht.2.symm
    | [_, _], ht =>
        simp only [List.cons_append, List.nil_append, List.cons.injEq] at ht
        exact absurd ht.2.2.symm hy
    | _ :: _ :: _ :: _, ht => simp at ht
  · exact Or.inr ⟨t, ht⟩

/-- No place of a token starts in the markup of a segment that does not hold the token. -/
theorem clear_place_markup {n i : Nat} {p markup : List Char} (hmarkup : IsElement markup)
    (hfree : occurs (tokenOf (stemOf n) i) markup = false)
    (hp : IsPlace (tokenOf (stemOf n) i) p) : Clear p markup := by
  rcases hmarkup.closes with ⟨front, c, hends, hc⟩
  rcases hp with rfl | ⟨before, after, hbefore, hafter, rfl⟩
  · have hlast : markup.getLast? = some '>' := by
      rw [hends]
      simp
    exact clear_of_not_occurs hfree hlast (notMem_tokenOf (by decide) n i)
  · refine clear_iff.2 ?_
    intro start rest hs hne hm
    rcases hm with ⟨y, hy⟩ | ⟨y, hy⟩
    · rw [hends] at hs
      rcases eq_or_exists_of_append_eq hs hne with hrest | ⟨x, hrest⟩
      · rw [hrest] at hy
        cases hy
      · rw [hrest] at hy
        exact hc (eq_of_prefix_loneText hbefore hafter hy)
    · have hno := IsPlace.not_occurs (Or.inr ⟨before, after, hbefore, hafter, rfl⟩) hfree
      rw [Bool.eq_false_iff] at hno
      exact hno (occurs_iff.2 ⟨start, y, by rw [hs, ← hy, List.append_assoc]⟩)

theorem clear_markup_place {n i : Nat} {p markup : List Char} (hmarkup : IsElement markup)
    (hp : IsPlace (tokenOf (stemOf n) i) p) : Clear markup p.tail := by
  rcases hmarkup.opens with ⟨c, rest, rfl, hc⟩
  rcases hp with rfl | ⟨before, after, hbefore, hafter, rfl⟩
  · exact clear_of_notMem fun h => notMem_tokenOf (by decide) n i (List.mem_of_mem_tail h)
  · exact clear_loneText_tail hbefore hafter (not_meets_closing hc)

/-!
## Seams
-/

/-- No place of a token reaches across the seam of two texts. -/
def Seam (n : Nat) (a b : List Char) : Prop :=
  forall i place, IsPlace (tokenOf (stemOf n) i) place -> forall front y z,
    a = front ++ y -> place = y ++ z -> y ≠ [] -> z <+: b -> z = []

/-- A tag opens a seam in front of it, unless it closes a paragraph. -/
theorem seam_of_opens {n : Nat} {w : List Char} (hw : ¬ Meets ['/', 'p', '>'] w)
    (a : List Char) : Seam n a ('<' :: w) := by
  intro i place hplace front y z ha hsplit hy hz
  have hclear : Clear ('<' :: w) place.tail := by
    rcases hplace with rfl | ⟨before, after, hbefore, hafter, rfl⟩
    · exact clear_of_notMem fun h => notMem_tokenOf (by decide) n i (List.mem_of_mem_tail h)
    · exact clear_loneText_tail hbefore hafter hw
  have htail : place.tail = y.tail ++ z := by
    rw [hsplit, List.tail_append_of_ne_nil hy]
  cases z with
  | nil => rfl
  | cons d z => exact absurd (Or.inl hz) (clear_iff.1 hclear y.tail (d :: z) htail (by simp))

/-- A tag opens a seam behind it, unless it belongs to a paragraph. -/
theorem seam_of_closes {n : Nat} {c : Char} (hc : c ≠ 'p') (front b : List Char) :
    Seam n (front ++ [c, '>']) b := by
  intro i place hplace start y z ha hsplit hy hz
  have hlast : '>' ∈ y := by
    have hend : (front ++ [c, '>']).getLast? = some '>' := by simp
    rw [ha, List.getLast?_append, List.getLast?_eq_some_getLast hy, Option.some_or] at hend
    exact List.mem_of_getLast? (by rw [List.getLast?_eq_some_getLast hy, hend])
  rcases hplace with rfl | ⟨before, after, hbefore, hafter, rfl⟩
  · exact absurd (hsplit ▸ List.mem_append_left z hlast) (notMem_tokenOf (by decide) n i)
  · rcases eq_or_exists_of_append_eq ha hy with hstart | ⟨x, hstart⟩
    · rw [hstart] at hsplit
      cases hsplit
    · rw [hstart] at hsplit
      exact absurd (eq_of_prefix_loneText hbefore hafter hsplit.symm) hc

end Math
end Folio
