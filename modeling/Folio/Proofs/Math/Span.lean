import Folio.Proofs.Math.Stretch
import Folio.Proofs.Text.Line

/-!
# Code spans

A run of backticks is closed by the first run behind it that is as long, if no blank line
comes between the two. The search for the end of a code span finds that run and stops at
nothing else (`firstCloser_of_spanEnd?`, `crossesBlankLine_of_spanEnd?_eq_none`), so each span
of a text stands between two such runs, and no run in the prose between the spans has one
behind it (`laid_spans`).
-/

namespace Folio
namespace Math

open Text

/-!
## Blank lines
-/

/-- Whether a text holds two line ends with only blanks between them. -/
def CrossesBlankLine (s : List Char) : Prop :=
  exists before blanks after,
    s = before ++ '\n' :: (blanks ++ '\n' :: after) ∧ ∀ c ∈ blanks, isSpace c = true

theorem not_crossesBlankLine_nil : ¬ CrossesBlankLine [] := by
  rintro ⟨before, blanks, after, h, -⟩
  exact List.append_ne_nil_of_right_ne_nil before (List.cons_ne_nil _ _) h.symm

theorem CrossesBlankLine.mono {s t : List Char} (h : CrossesBlankLine s) (hst : s <:+: t) :
    CrossesBlankLine t := by
  rcases h with ⟨before, blanks, after, rfl, hblanks⟩
  rcases hst with ⟨front, back, rfl⟩
  refine ⟨front ++ before, blanks, after ++ back, ?_, hblanks⟩
  simp only [List.append_assoc, List.cons_append]

theorem startsBlankLine_iff {s : List Char} :
    startsBlankLine s = true ↔
      exists blanks after,
        s = '\n' :: (blanks ++ '\n' :: after) ∧ ∀ c ∈ blanks, isSpace c = true := by
  constructor
  · intro h
    unfold startsBlankLine at h
    split at h
    next rest =>
      split at h
      next after hrest =>
        refine ⟨rest.takeWhile isSpace, after, ?_, fun c hc => List.mem_takeWhile_imp hc⟩
        rw [← hrest, List.takeWhile_append_dropWhile]
      next => cases h
    next => cases h
  · rintro ⟨blanks, after, rfl, hblanks⟩
    have hrest : (blanks ++ '\n' :: after).dropWhile isSpace = '\n' :: after := by
      rw [List.dropWhile_append_of_pos hblanks, List.dropWhile_cons_of_neg (by decide)]
    simp only [startsBlankLine, hrest]

theorem crossesBlankLine_cons_iff {c : Char} {s : List Char} :
    CrossesBlankLine (c :: s) ↔ startsBlankLine (c :: s) = true ∨ CrossesBlankLine s := by
  rw [startsBlankLine_iff]
  constructor
  · rintro ⟨before, blanks, after, h, hblanks⟩
    cases before with
    | nil => exact Or.inl ⟨blanks, after, h, hblanks⟩
    | cons d before => exact Or.inr ⟨before, blanks, after, (List.cons.inj h).2, hblanks⟩
  · rintro (⟨blanks, after, h, hblanks⟩ | h)
    · exact ⟨[], blanks, after, h, hblanks⟩
    · exact h.mono (List.suffix_cons c s).isInfix

theorem startsBlankLine_append {s : List Char} (t : List Char) (h : startsBlankLine s = true) :
    startsBlankLine (s ++ t) = true := by
  rw [startsBlankLine_iff] at h ⊢
  rcases h with ⟨blanks, after, rfl, hblanks⟩
  refine ⟨blanks, after ++ t, ?_, hblanks⟩
  simp only [List.append_assoc, List.cons_append]

/-- A blank line ends in front of whatever is neither a blank nor a line end. -/
theorem crossesBlankLine_of_startsBlankLine_append {s t : List Char} {c : Char}
    (hspace : isSpace c = false) (hnewline : c ≠ '\n')
    (h : startsBlankLine (s ++ c :: t) = true) : CrossesBlankLine s := by
  rcases startsBlankLine_iff.1 h with ⟨blanks, after, hs, hblanks⟩
  have hsplit : s ++ c :: t = ('\n' :: (blanks ++ ['\n'])) ++ after := by
    rw [hs, List.cons_append, List.append_assoc, List.singleton_append]
  rcases List.append_eq_append_iff.1 hsplit with ⟨d, hline, hrest⟩ | ⟨d, hline, hrest⟩
  · cases d with
    | nil =>
        rw [List.append_nil] at hline
        exact ⟨[], blanks, [], hline.symm, hblanks⟩
    | cons e d =>
        cases hrest
        have hmem : c ∈ '\n' :: (blanks ++ ['\n']) := by
          rw [hline]
          exact List.mem_append_right s List.mem_cons_self
        simp only [List.mem_cons, List.mem_append, List.not_mem_nil, or_false] at hmem
        rcases hmem with rfl | hmem | rfl
        · exact absurd rfl hnewline
        · rw [hblanks c hmem] at hspace
          cases hspace
        · exact absurd rfl hnewline
  · refine ⟨[], blanks, d, ?_, hblanks⟩
    rw [hline, List.cons_append, List.append_assoc]
    rfl

/-!
## Runs of backticks
-/

/-- A run of backticks. -/
def ticks (n : Nat) : List Char :=
  List.replicate n '`'

theorem length_ticks (n : Nat) : (ticks n).length = n :=
  List.length_replicate

theorem ticks_append_cons (n : Nat) (s : List Char) : ticks n ++ '`' :: s = ticks (n + 1) ++ s := by
  rw [ticks, ticks, List.replicate_succ', List.append_assoc, List.singleton_append]

theorem getLast?_nil_ne : ([] : List Char).getLast? ≠ some '`' :=
  Option.some_ne_none '`' |>.symm

theorem head?_nil_ne : ([] : List Char).head? ≠ some '`' :=
  Option.some_ne_none '`' |>.symm

theorem crossesBlankLine_ticks_append_iff {n : Nat} {s : List Char} :
    CrossesBlankLine (ticks n ++ s) ↔ CrossesBlankLine s := by
  induction n with
  | zero => exact Iff.rfl
  | succ n ih =>
      rw [← ih]
      exact crossesBlankLine_cons_iff.trans (or_iff_right Bool.false_ne_true)

theorem crossesBlankLine_append_ticks_iff {n : Nat} {s : List Char} :
    CrossesBlankLine (s ++ ticks n) ↔ CrossesBlankLine s := by
  cases n with
  | zero => rw [ticks, List.replicate_zero, List.append_nil]
  | succ n =>
      constructor
      · intro h
        induction s with
        | nil =>
            rw [List.nil_append, ← List.append_nil (ticks _),
              crossesBlankLine_ticks_append_iff] at h
            exact h
        | cons c s ih =>
            rw [List.cons_append, crossesBlankLine_cons_iff] at h
            rcases h with hstarts | hcrosses
            · exact crossesBlankLine_of_startsBlankLine_append rfl (by decide)
                (show startsBlankLine ((c :: s) ++ '`' :: ticks n) = true from hstarts)
            · exact crossesBlankLine_cons_iff.2 (Or.inr (ih hcrosses))
      · intro h
        exact h.mono (List.prefix_append _ _).isInfix

theorem head?_ticks_append {n : Nat} (hn : 0 < n) (s : List Char) :
    (ticks n ++ s).head? = some '`' := by
  cases n with
  | zero => cases hn
  | succ n => rfl

theorem ticks_append_inj {m n : Nat} {s t : List Char} (hs : s.head? ≠ some '`')
    (ht : t.head? ≠ some '`') (h : ticks m ++ s = ticks n ++ t) : m = n ∧ s = t := by
  induction m generalizing n with
  | zero =>
      cases n with
      | zero => exact ⟨rfl, h⟩
      | succ n =>
          rw [show s = ticks (n + 1) ++ t from h] at hs
          exact absurd rfl hs
  | succ m ih =>
      cases n with
      | zero =>
          rw [show t = ticks (m + 1) ++ s from h.symm] at ht
          exact absurd rfl ht
      | succ n =>
          rcases ih (List.cons.inj h).2 with ⟨rfl, hst⟩
          exact ⟨rfl, hst⟩

/-- What of a run of backticks does not end with one is nothing. -/
theorem eq_nil_of_ticks_eq_append {n : Nat} {s t : List Char} (hs : s.getLast? ≠ some '`')
    (h : ticks n = s ++ t) : s = [] := by
  rcases List.eq_nil_or_concat s with rfl | ⟨front, c, rfl⟩
  · rfl
  · have hc : c ∈ ticks n := by
      rw [h, List.concat_eq_append]
      exact List.mem_append_left t (List.mem_append_right front List.mem_cons_self)
    rw [List.eq_of_mem_replicate hc, List.concat_eq_append, List.getLast?_concat] at hs
    exact absurd rfl hs

/-- A run of just so many backticks in a text, with what stands in front of it and behind it. -/
structure Closer (n : Nat) (s inside rest : List Char) : Prop where
  split : s = inside ++ (ticks n ++ rest)
  front : inside.getLast? ≠ some '`'
  back : rest.head? ≠ some '`'

theorem getLast?_ne_of_append {s t : List Char} (h : (s ++ t).getLast? ≠ some '`') :
    t.getLast? ≠ some '`' := by
  intro hlast
  apply h
  rw [List.getLast?_append, hlast]
  rfl

theorem head?_ne_of_append {s t : List Char} (h : (s ++ t).head? ≠ some '`') :
    s.head? ≠ some '`' := by
  intro hhead
  apply h
  rw [List.head?_append, hhead]
  rfl

/-- A run of backticks in front of whatever stands behind a text is one of the text, if it
ends there. -/
theorem Closer.of_append {n : Nat} {s after inside rest : List Char}
    (h : Closer n (s ++ after) inside rest) (hlength : inside.length + n ≤ s.length) :
    exists more, Closer n s inside more := by
  have hstart : inside ++ ticks n <+: s ++ after :=
    ⟨rest, by rw [h.split, List.append_assoc]⟩
  have hle : (inside ++ ticks n).length ≤ s.length := by
    rwa [List.length_append, length_ticks]
  rcases List.prefix_of_prefix_length_le hstart (List.prefix_append s after) hle with ⟨more, rfl⟩
  have hsplit := h.split
  rw [List.append_assoc, List.append_assoc, List.append_cancel_left_eq,
    List.append_cancel_left_eq] at hsplit
  refine ⟨more, List.append_assoc _ _ _, h.front, ?_⟩
  have hback := h.back
  rw [← hsplit] at hback
  exact head?_ne_of_append hback

/-- A run of backticks does not reach over the end of a text that ends with another
character. -/
theorem Closer.length_le {n : Nat} {s after inside rest : List Char}
    (h : Closer n (s ++ after) inside rest) (hs : s.getLast? ≠ some '`')
    (hlt : inside.length < s.length) : inside.length + n ≤ s.length := by
  rcases List.prefix_of_prefix_length_le ⟨ticks n ++ rest, h.split.symm⟩
    (List.prefix_append s after) (Nat.le_of_lt hlt) with ⟨y, rfl⟩
  have hsplit := h.split
  rw [List.append_assoc, List.append_cancel_left_eq] at hsplit
  rcases List.append_eq_append_iff.1 hsplit with ⟨w, hticks, -⟩ | ⟨w, rfl, -⟩
  · have hnil := eq_nil_of_ticks_eq_append (getLast?_ne_of_append hs) hticks
    rw [hnil, List.append_nil] at hlt
    exact absurd hlt (Nat.lt_irrefl _)
  · rw [List.length_append, List.length_append, length_ticks]
    omega

/-- Within a run of backticks there is no other one. -/
theorem Closer.eq_nil_of_lt {m n : Nat} {after inside rest : List Char}
    (h : Closer m (ticks n ++ after) inside rest) (hafter : after.head? ≠ some '`')
    (hlt : inside.length < n) : inside = [] ∧ m = n := by
  rcases List.prefix_of_prefix_length_le ⟨ticks m ++ rest, h.split.symm⟩
    (List.prefix_append (ticks n) after) (by rw [length_ticks]; exact Nat.le_of_lt hlt) with
    ⟨more, hmore⟩
  have hnil := eq_nil_of_ticks_eq_append h.front hmore.symm
  have hsplit := h.split
  rw [hnil] at hsplit
  exact ⟨hnil, (ticks_append_inj hafter h.back hsplit).1.symm⟩

/-- Where a run of backticks comes first, a run of so many is that one, or it stands behind
the character that ends that one. -/
theorem closer_ticks_append_iff {n k : Nat} {c : Char} {s inside rest : List Char}
    (hn : 0 < n) (hc : c ≠ '`') :
    Closer n (ticks k ++ c :: s) inside rest ↔
      inside = [] ∧ k = n ∧ rest = c :: s ∨
        exists a, inside = ticks k ++ c :: a ∧ Closer n s a rest := by
  have hhead : (c :: s).head? ≠ some '`' := fun h => hc (Option.some.inj h)
  constructor
  · rintro ⟨hsplit, hfront, hback⟩
    rcases List.append_eq_append_iff.1 hsplit with ⟨a, rfl, ha⟩ | ⟨a, hticks, ha⟩
    · right
      cases a with
      | nil => exact absurd ((congrArg List.head? ha).trans (head?_ticks_append hn rest)) hhead
      | cons d a =>
          rcases List.cons.inj ha with ⟨rfl, hs⟩
          refine ⟨a, rfl, hs, ?_, hback⟩
          rw [List.append_cons] at hfront
          exact getLast?_ne_of_append hfront
    · left
      have hnil := eq_nil_of_ticks_eq_append hfront hticks
      rw [hnil, List.nil_append] at hticks
      rw [← hticks] at ha
      rcases ticks_append_inj hback hhead ha with ⟨rfl, rfl⟩
      exact ⟨hnil, rfl, rfl⟩
  · rintro (⟨rfl, rfl, rfl⟩ | ⟨a, rfl, hsplit, hfront, hback⟩)
    · exact ⟨rfl, getLast?_nil_ne, hhead⟩
    · refine ⟨?_, ?_, hback⟩
      · rw [hsplit, List.append_assoc, List.cons_append]
      · rw [List.getLast?_append, List.getLast?_cons]
        cases ha : a.getLast? with
        | none => exact fun h => hc (Option.some.inj h)
        | some d =>
            rw [ha] at hfront
            exact hfront

theorem closer_ticks_iff {n k : Nat} {inside rest : List Char} :
    Closer n (ticks k) inside rest ↔ inside = [] ∧ k = n ∧ rest = [] := by
  constructor
  · rintro ⟨hsplit, hfront, hback⟩
    have hnil := eq_nil_of_ticks_eq_append hfront hsplit
    rw [hnil, List.nil_append, ← List.append_nil (ticks k)] at hsplit
    rcases ticks_append_inj head?_nil_ne hback hsplit with ⟨rfl, rfl⟩
    exact ⟨hnil, rfl, rfl⟩
  · rintro ⟨rfl, rfl, rfl⟩
    exact ⟨(List.append_nil _).symm, getLast?_nil_ne, head?_nil_ne⟩

/-- The first run of just so many backticks, if no blank line comes before it. -/
structure FirstCloser (n : Nat) (s inside rest : List Char) : Prop
    extends Closer n s inside rest where
  first : forall a b, ¬ Closer n inside a b
  unbroken : ¬ CrossesBlankLine inside

/-- Passing over a run that does not close the span, and the character that ends it. -/
theorem FirstCloser.ticks_append {n k : Nat} {c : Char} {s inside rest : List Char}
    (hn : 0 < n) (hc : c ≠ '`') (hk : k ≠ n) (hblank : startsBlankLine (c :: s) = false)
    (h : FirstCloser n s inside rest) :
    FirstCloser n (ticks k ++ c :: s) (ticks k ++ c :: inside) rest := by
  refine ⟨(closer_ticks_append_iff hn hc).2 (Or.inr ⟨inside, rfl, h.toCloser⟩), ?_, ?_⟩
  · intro a b hab
    rcases (closer_ticks_append_iff hn hc).1 hab with ⟨-, hkn, -⟩ | ⟨more, rfl, hmore⟩
    · exact hk hkn
    · exact h.first more b hmore
  · rw [crossesBlankLine_ticks_append_iff, crossesBlankLine_cons_iff]
    rintro (hstarts | hcrosses)
    · have hwhole := startsBlankLine_append (ticks n ++ rest) hstarts
      rw [List.cons_append, ← h.split, hblank] at hwhole
      cases hwhole
    · exact h.unbroken hcrosses

theorem firstCloser_nil {n : Nat} {s rest : List Char} (hn : 0 < n) (h : Closer n s [] rest) :
    FirstCloser n s [] rest := by
  refine ⟨h, ?_, not_crossesBlankLine_nil⟩
  intro a b hab
  rcases (closer_ticks_iff (k := 0)).1 hab with ⟨-, hzero, -⟩
  exact Nat.ne_of_lt hn hzero

/-!
## The end of a span
-/

/-- What the search for the end of a span finds is the first run that closes it. The `k`
backticks that stand right in front of the text may belong to that run. -/
theorem firstCloser_of_spanEnd? {n k : Nat} {s found rest : List Char} (hn : 0 < n)
    (h : spanEnd? n k s = some (found, rest)) :
    exists inside, ticks k ++ found = inside ++ ticks n ∧
      FirstCloser n (ticks k ++ s) inside rest := by
  induction s generalizing k found with
  | nil =>
      rw [spanEnd?] at h
      split at h
      next hk =>
        cases h
        subst hk
        rw [List.append_nil]
        exact ⟨[], rfl, firstCloser_nil hn (closer_ticks_iff.2 ⟨rfl, rfl, rfl⟩)⟩
      next => cases h
  | cons c s ih =>
      rw [spanEnd?] at h
      split at h
      next hc =>
        rw [Option.map_eq_some_iff] at h
        rcases h with ⟨⟨text, after⟩, htext, hfound⟩
        cases hfound
        rw [hc, ticks_append_cons, ticks_append_cons]
        exact ih htext
      next hc =>
        split at h
        next hk =>
          cases h
          subst hk
          rw [List.append_nil]
          exact ⟨[], rfl,
            firstCloser_nil hn ((closer_ticks_append_iff hn hc).2 (Or.inl ⟨rfl, rfl, rfl⟩))⟩
        next hk =>
          split at h
          next => cases h
          next hblank =>
            rw [Option.map_eq_some_iff] at h
            rcases h with ⟨⟨text, after⟩, htext, hfound⟩
            cases hfound
            rcases ih htext with ⟨inside, hinside, hfirst⟩
            refine ⟨ticks k ++ c :: inside, ?_,
              hfirst.ticks_append hn hc hk (Bool.eq_false_iff.2 hblank)⟩
            rw [List.append_assoc, List.cons_append, ← hinside]
            rfl

/-- Where the search for the end of a span finds nothing, a blank line comes before each run
that might close it. -/
theorem crossesBlankLine_of_spanEnd?_eq_none {n k : Nat} {s inside rest : List Char}
    (hn : 0 < n) (h : spanEnd? n k s = none) (hcloser : Closer n (ticks k ++ s) inside rest) :
    CrossesBlankLine inside := by
  induction s generalizing k inside with
  | nil =>
      rw [List.append_nil, closer_ticks_iff] at hcloser
      rw [spanEnd?, if_pos hcloser.2.1] at h
      cases h
  | cons c s ih =>
      rw [spanEnd?] at h
      split at h
      next hc =>
        rw [hc, ticks_append_cons] at hcloser
        exact ih (Option.map_eq_none_iff.1 h) hcloser
      next hc =>
        split at h
        next => cases h
        next hk =>
          rcases (closer_ticks_append_iff hn hc).1 hcloser with ⟨-, hkn, -⟩ | ⟨a, rfl, ha⟩
          · exact absurd hkn hk
          · rw [crossesBlankLine_ticks_append_iff]
            split at h
            next hblank =>
              rcases Nat.exists_eq_succ_of_ne_zero (Nat.ne_of_gt hn) with ⟨m, rfl⟩
              rw [ha.split, ← List.cons_append] at hblank
              exact crossesBlankLine_of_startsBlankLine_append rfl (by decide) hblank
            next =>
              exact crossesBlankLine_cons_iff.2 (Or.inr (ih (Option.map_eq_none_iff.1 h) ha))

/-!
## The spans of a text
-/

/-- Whether a text is a code span where it stands. -/
def IsSpan (before text after : List Char) : Prop :=
  exists n inside, 0 < n ∧ before.getLast? ≠ some '`' ∧ (inside ++ ticks n).head? ≠ some '`' ∧
    text = ticks n ++ (inside ++ ticks n) ∧
    FirstCloser n (inside ++ (ticks n ++ after)) inside after

/-- Whether no span starts at a place: if a run of backticks does, a blank line comes before
each run that might close it. -/
def NoSpan (before after : List Char) : Prop :=
  forall n behind inside rest, 0 < n -> before.getLast? ≠ some '`' -> after = ticks n ++ behind ->
    behind.head? ≠ some '`' -> Closer n behind inside rest -> CrossesBlankLine inside

/-- Whether a stretch is a span. -/
def SpanIn (before : List Char) : Stretch -> List Char -> Prop
  | .span t, after => IsSpan before t after
  | _, _ => False

theorem noSpan_of_head?_ne {before after : List Char} (h : after.head? ≠ some '`') :
    NoSpan before after := by
  intro n behind inside rest hn _ hafter
  rw [hafter] at h
  exact absurd (head?_ticks_append hn behind) h

theorem noSpan_of_getLast?_eq {before after : List Char} (h : before.getLast? = some '`') :
    NoSpan before after := by
  intro n behind inside rest _ hbefore
  exact absurd h hbefore

theorem cons_takeWhile_eq_ticks (s : List Char) :
    '`' :: s.takeWhile (· = '`') = ticks ((s.takeWhile (· = '`')).length + 1) := by
  rw [ticks, List.replicate_succ, ← takeWhile_eq_replicate]

theorem head?_dropWhile_ne (s : List Char) : (s.dropWhile (· = '`')).head? ≠ some '`' := by
  intro hhead
  exact absurd rfl (of_decide_eq_false (head?_dropWhile '`' hhead))

/-- Spans stand where they were found, and no span starts between them. -/
theorem laid_spans (s : List Char) :
    forall before, (s.head? = some '`' -> before.getLast? ≠ some '`') ->
      Laid NoSpan SpanIn before (spans s) := by
  fun_induction spans s with
  | case1 =>
      intro before _
      exact trivial
  | case2 rest run after found hfound ih =>
      intro before h
      have hrun : '`' :: run = ticks (run.length + 1) := cons_takeWhile_eq_ticks rest
      have hafter : after.head? ≠ some '`' := head?_dropWhile_ne rest
      rcases firstCloser_of_spanEnd? (Nat.succ_pos _) hfound with ⟨inside, hinside, hfirst⟩
      have hspan : IsSpan before ('`' :: run ++ found.1) found.2 := by
        refine ⟨run.length + 1, inside, Nat.succ_pos _, h rfl, ?_, ?_, ?_⟩
        · rw [show after = inside ++ _ from hfirst.split, ← List.append_assoc] at hafter
          exact head?_ne_of_append hafter
        · rw [← hinside, hrun]
          rfl
        · rw [← hfirst.split]
          exact hfirst
      refine ⟨?_, ih _ fun hhead => absurd hhead hfirst.back⟩
      rw [flatMap_text_spans]
      exact hspan
  | case3 rest run after hnone ih =>
      intro before h
      have hrun : '`' :: run = ticks (run.length + 1) := cons_takeWhile_eq_ticks rest
      have hafter : after.head? ≠ some '`' := head?_dropWhile_ne rest
      apply laid_foldr_consProse
      · rw [flatMap_text_spans]
        intro a b hab _
        rw [hrun] at hab
        by_cases ha : a.getLast? = some '`'
        · apply noSpan_of_getLast?_eq
          rw [List.getLast?_append, ha]
          rfl
        · have hnil := eq_nil_of_ticks_eq_append ha hab
          rw [hnil, List.nil_append] at hab
          intro n behind inside rest hn _ hsplit hbehind hcloser
          rw [← hab] at hsplit
          rcases ticks_append_inj hafter hbehind hsplit with ⟨rfl, rfl⟩
          exact crossesBlankLine_of_spanEnd?_eq_none hn hnone hcloser
      · exact ih _ fun hhead => absurd hhead hafter
  | case4 c rest hc ih =>
      intro before h
      apply laid_consProse
      · exact noSpan_of_head?_ne fun hhead => hc (Option.some.inj hhead)
      · apply ih
        intro _
        rw [List.getLast?_concat]
        exact fun hlast => hc (Option.some.inj hlast)

end Math
end Folio
