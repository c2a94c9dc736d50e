import Folio.Proofs.Math.Stretch
import Folio.Proofs.Text.Line

/-!
# Fences

A fence is a line that opens it, lines that do not close it, and a line that does; without
such a line it runs to the end of the text. This is what the search for a fence finds, and all
that it finds (`fence?_eq_some_iff`). A text is therefore cut into fences at the lines that
open one, and no line between the fences does (`laid_fences`).
-/

namespace Folio
namespace Math

open Text

/-!
## What opens and closes a fence
-/

/-- Whether a line opens a fence: there are at most three blanks, a run of at least three
backticks or tildes to which no more belong, and a line end. -/
def OpensFence (marker : Char) (count : Nat) (line : List Char) : Prop :=
  exists blanks info, line = blanks ++ (List.replicate count marker ++ (info ++ ['\n'])) ∧
    (∀ c ∈ blanks, isSpace c = true) ∧ blanks.length ≤ 3 ∧ (marker = '`' ∨ marker = '~') ∧
    3 ≤ count ∧ info.head? ≠ some marker ∧ '\n' ∉ info

/-- Whether a line closes a fence: there are at most three blanks, the run that opened the
fence, more backticks or tildes, and blanks. -/
def ClosesFence (marker : Char) (count : Nat) (line : List Char) : Prop :=
  exists blanks marks tail, line = blanks ++ (List.replicate count marker ++ (marks ++ tail)) ∧
    (∀ c ∈ blanks, isSpace c = true) ∧ blanks.length ≤ 3 ∧
    (∀ c ∈ marks, c = '`' ∨ c = '~') ∧ ∀ c ∈ tail, isSpace c = true

/-- An opening line, lines that do not close the fence, and a last line. -/
structure Fence where
  marker : Char
  count : Nat
  opening : List Char
  inner : List (List Char)
  last : List Char
  opens : OpensFence marker count opening
  unclosed : ∀ line ∈ inner, '\n' ∉ line ∧ ¬ ClosesFence marker count line
  whole : '\n' ∉ last

/-- What stands behind the opening line. -/
def Fence.body (f : Fence) : List Char :=
  f.inner.flatMap (· ++ ['\n']) ++ f.last

def Fence.text (f : Fence) : List Char :=
  f.opening ++ f.body

/-- Whether a fence ends in front of a text: its last line closes it, or nothing follows. -/
def Fence.Ends (f : Fence) (after : List Char) : Prop :=
  ClosesFence f.marker f.count f.last ∧ EndsLine after ∨ after = []

/-- Whether a fence stands in a place. -/
def IsFence (before text after : List Char) : Prop :=
  StartsLine before ∧ exists f : Fence, f.text = text ∧ f.Ends after

variable {marker : Char} {count : Nat}

theorem isSpace_of_marker (h : marker = '`' ∨ marker = '~') : isSpace marker = false := by
  rcases h with rfl | rfl <;> rfl

theorem ne_newline_of_isSpace {c : Char} (h : isSpace c = true) : c ≠ '\n' := by
  rintro rfl
  exact absurd h (by decide)

theorem head?_replicate_append (hcount : 0 < count) (s : List Char) :
    (List.replicate count marker ++ s).head? = some marker := by
  rw [List.head?_append, List.head?_replicate, if_neg (Nat.ne_of_gt hcount)]
  rfl

theorem OpensFence.marker_eq {line : List Char} (h : OpensFence marker count line) :
    marker = '`' ∨ marker = '~' := by
  rcases h with ⟨_, _, _, _, _, hmarker, _⟩
  exact hmarker

theorem OpensFence.count_pos {line : List Char} (h : OpensFence marker count line) :
    0 < count := by
  rcases h with ⟨_, _, _, _, _, _, hcount, _⟩
  omega

theorem OpensFence.length_pos {line : List Char} (h : OpensFence marker count line) :
    0 < line.length := by
  rcases h with ⟨_, _, rfl, -⟩
  simp only [List.length_append, List.length_singleton]
  omega

theorem ClosesFence.newline_notMem {line : List Char} (hmarker : marker = '`' ∨ marker = '~')
    (h : ClosesFence marker count line) : '\n' ∉ line := by
  rcases h with ⟨blanks, marks, tail, rfl, hblanks, -, hmarks, htail⟩
  intro hmem
  rcases List.mem_append.1 hmem with h | hmem
  · exact ne_newline_of_isSpace (hblanks _ h) rfl
  · rcases List.mem_append.1 hmem with h | hmem
    · rw [← List.eq_of_mem_replicate h] at hmarker
      revert hmarker
      decide
    · rcases List.mem_append.1 hmem with h | h
      · have := hmarks _ h
        revert this
        decide
      · exact ne_newline_of_isSpace (htail _ h) rfl

theorem ClosesFence.ne_nil {line : List Char} (hcount : 0 < count)
    (h : ClosesFence marker count line) : line ≠ [] := by
  rcases h with ⟨blanks, marks, tail, rfl, -⟩
  intro hnil
  have hlength := congrArg List.length hnil
  simp only [List.length_append, List.length_replicate, List.length_nil] at hlength
  omega

/-!
## The opening line
-/

theorem fenceOpening?_of_opensFence {line rest : List Char}
    (h : OpensFence marker count line) :
    fenceOpening? (line ++ rest) = some ⟨marker, count, line, rest⟩ := by
  have hpos := h.count_pos
  rcases h with ⟨blanks, info, rfl, hblanks, hshort, hmarker, hcount, hinfo, hnewline⟩
  -- The blanks, the run and the line are each taken up to the character that stops them.
  have hbody : (blanks ++ (List.replicate count marker ++ (info ++ ['\n']))) ++ rest =
      blanks ++ (List.replicate count marker ++ (info ++ '\n' :: rest)) := by
    simp only [List.append_assoc, List.singleton_append]
  have hhead : (List.replicate count marker ++ (info ++ '\n' :: rest)).head? = some marker :=
    head?_replicate_append hpos _
  have hspace : ∀ c ∈ (List.replicate count marker ++ (info ++ '\n' :: rest)).head?,
      isSpace c = false := by
    intro c hc
    rw [hhead] at hc
    cases hc
    exact isSpace_of_marker hmarker
  have hrun : ∀ c ∈ (info ++ '\n' :: rest).head?, decide (c = marker) = false := by
    intro c hc
    apply decide_eq_false
    rintro rfl
    cases info with
    | nil =>
        cases hc
        revert hmarker
        decide
    | cons d info => exact hinfo hc
  have hline : ∀ c ∈ List.replicate count marker ++ info, decide (c ≠ '\n') = true := by
    intro c hc
    apply decide_eq_true
    rintro rfl
    rcases List.mem_append.1 hc with h | h
    · rw [← List.eq_of_mem_replicate h] at hmarker
      revert hmarker
      decide
    · exact hnewline h
  have hstop : ∀ c ∈ ('\n' :: rest).head?, decide (c ≠ '\n') = false := by
    rintro c ⟨⟩
    rfl
  have hcounted : ∀ c ∈ List.replicate count marker, decide (c = marker) = true := by
    intro c hc
    exact decide_eq_true (List.eq_of_mem_replicate hc)
  rw [hbody]
  unfold fenceOpening?
  simp only
  rw [takeWhile_append_exact hblanks hspace, dropWhile_append_exact hblanks hspace]
  split
  next hnil =>
    rw [hnil] at hhead
    cases hhead
  next first more hcons =>
    rw [hcons] at hhead
    cases hhead
    rw [takeWhile_append_exact hcounted hrun, ← List.append_assoc (List.replicate count marker),
      takeWhile_append_exact hline hstop, dropWhile_append_exact hline hstop,
      List.length_replicate, if_neg]
    · simp only [List.append_assoc]
    · rcases hmarker with rfl | rfl
      · simp
        omega
      · simp
        omega

/-- A line opens a fence, cut as the search cuts it. -/
theorem opensFence_of_takeWhile {blanks body : List Char}
    (hblanks : ∀ c ∈ blanks, isSpace c = true) (hshort : blanks.length ≤ 3)
    (hmarker : marker = '`' ∨ marker = '~')
    (hcount : 3 ≤ (body.takeWhile (· = marker)).length) :
    OpensFence marker (body.takeWhile (· = marker)).length
      (blanks ++ body.takeWhile (fun c => decide (c ≠ '\n')) ++ ['\n']) := by
  have hline : body.takeWhile (fun c => decide (c ≠ '\n')) =
      body.takeWhile (· = marker) ++
        (body.dropWhile (· = marker)).takeWhile (fun c => decide (c ≠ '\n')) := by
    conv_lhs => rw [← List.takeWhile_append_dropWhile (p := (· = marker)) (l := body)]
    apply List.takeWhile_append_of_pos
    intro c hc
    rw [takeWhile_eq_replicate] at hc
    rw [List.eq_of_mem_replicate hc]
    rcases hmarker with rfl | rfl <;> rfl
  refine ⟨blanks, (body.dropWhile (· = marker)).takeWhile (fun c => decide (c ≠ '\n')), ?_,
    hblanks, hshort, hmarker, hcount, ?_, ?_⟩
  · rw [hline, ← takeWhile_eq_replicate]
    simp only [List.append_assoc]
  · intro hhead
    have hfirst := List.head?_takeWhile (p := fun c => decide (c ≠ '\n'))
      (l := body.dropWhile (· = marker))
    rw [hhead] at hfirst
    have hstop := head?_dropWhile (p := (· = marker)) (s := body) marker
      (Option.mem_def.2 (Option.eq_some_of_filter_eq_some hfirst.symm))
    exact absurd rfl (of_decide_eq_false hstop)
  · intro hmem
    have hkept := List.mem_takeWhile_imp hmem
    exact of_decide_eq_true hkept rfl

/-- The line that a search finds is one that opens a fence. -/
theorem opensFence_of_fenceOpening? {s : List Char} {o : FenceOpening}
    (h : fenceOpening? s = some o) : OpensFence o.marker o.count o.line := by
  unfold fenceOpening? at h
  simp only at h
  split at h
  · cases h
  next marker more hbody =>
    split at h
    · cases h
    next hguard =>
      split at h
      · cases h
      next newline rest hrest =>
        cases h
        have hnewline : newline = '\n' := by
          have hstop := head?_dropWhile (p := fun c => decide (c ≠ '\n'))
            (s := s.dropWhile isSpace) newline (by rw [hrest]; rfl)
          exact not_not.1 (of_decide_eq_false hstop)
        simp only [Bool.or_eq_true, decide_eq_true_eq, Bool.not_eq_true', Bool.or_eq_false_iff,
          decide_eq_false_iff_not, not_or, not_and_or, not_not, Nat.not_lt] at hguard
        rcases hguard with ⟨⟨hshort, hmarker⟩, hcount⟩
        rw [hnewline]
        exact opensFence_of_takeWhile
          (fun c hc => List.mem_takeWhile_imp hc) hshort hmarker hcount

/-!
## The closing line
-/

theorem fenceClosing?_of_closesFence {line rest : List Char}
    (hmarker : marker = '`' ∨ marker = '~') (hcount : 0 < count)
    (h : ClosesFence marker count line) (hrest : EndsLine rest) :
    fenceClosing? marker count (line ++ rest) = some (line, rest) := by
  rcases h with ⟨blanks, marks, tail, rfl, hblanks, hshort, hmarks, htail⟩
  have hbody : (blanks ++ (List.replicate count marker ++ (marks ++ tail))) ++ rest =
      blanks ++ ((List.replicate count marker ++ marks) ++ (tail ++ rest)) := by
    simp only [List.append_assoc]
  have hspace : ∀ c ∈ ((List.replicate count marker ++ marks) ++ (tail ++ rest)).head?,
      isSpace c = false := by
    intro c hc
    rw [List.append_assoc, head?_replicate_append hcount] at hc
    cases hc
    exact isSpace_of_marker hmarker
  have hrun : ∀ c ∈ List.replicate count marker ++ marks,
      (decide (c = '`') || decide (c = '~')) = true := by
    intro c hc
    rw [Bool.or_eq_true, decide_eq_true_eq, decide_eq_true_eq]
    rcases List.mem_append.1 hc with hc | hc
    · rw [List.eq_of_mem_replicate hc]
      exact hmarker
    · exact hmarks c hc
  have hstop : ∀ c ∈ (tail ++ rest).head?, (decide (c = '`') || decide (c = '~')) = false := by
    intro c hc
    cases tail with
    | nil =>
        rw [hrest c hc]
        rfl
    | cons d tail =>
        have hblank := htail c (by cases hc; exact List.mem_cons_self)
        rw [Bool.or_eq_false_iff, decide_eq_false_iff_not, decide_eq_false_iff_not]
        constructor
        · rintro rfl
          exact absurd hblank (by decide)
        · rintro rfl
          exact absurd hblank (by decide)
  have hend : ∀ c ∈ rest.head?, isSpace c = false := by
    intro c hc
    rw [hrest c hc]
    rfl
  have hcounted : count ≤ ((List.replicate count marker ++ marks ++ (tail ++ rest)).takeWhile
      (· = marker)).length := by
    rw [List.append_assoc, List.takeWhile_append_of_pos
      (fun c hc => decide_eq_true (List.eq_of_mem_replicate hc)), List.length_append,
      List.length_replicate]
    exact Nat.le_add_right _ _
  have hline : rest = [] ∨ rest.head? = some '\n' := by
    rcases hrest.eq_nil_or with h | ⟨t, rfl⟩
    · exact Or.inl h
    · exact Or.inr rfl
  rw [hbody]
  unfold fenceClosing?
  simp only
  rw [takeWhile_append_exact hblanks hspace, dropWhile_append_exact hblanks hspace,
    takeWhile_append_exact hrun hstop, dropWhile_append_exact hrun hstop,
    takeWhile_append_exact htail hend, dropWhile_append_exact htail hend,
    if_pos ⟨hshort, hcounted, hline⟩]
  simp only [List.append_assoc]

theorem closesFence_of_fenceClosing? {s text rest : List Char}
    (hmarker : marker = '`' ∨ marker = '~')
    (h : fenceClosing? marker count s = some (text, rest)) :
    ClosesFence marker count text ∧ EndsLine rest := by
  unfold fenceClosing? at h
  simp only at h
  split at h
  case isFalse => cases h
  case isTrue hcloses =>
    cases h
    rcases hcloses with ⟨hshort, hcount, hrest⟩
    constructor
    · rcases exists_replicate_append_of_le hcount with ⟨body, hbody⟩
      rw [hbody, List.takeWhile_append_of_pos, List.dropWhile_append_of_pos]
      · refine ⟨s.takeWhile isSpace, body.takeWhile (fun c => decide (c = '`') || decide (c = '~')),
          (body.dropWhile (fun c => decide (c = '`') || decide (c = '~'))).takeWhile isSpace, ?_,
          fun c hc => List.mem_takeWhile_imp hc, hshort, ?_,
          fun c hc => List.mem_takeWhile_imp hc⟩
        · simp only [List.append_assoc]
        · intro c hc
          have hmark := List.mem_takeWhile_imp hc
          rwa [Bool.or_eq_true, decide_eq_true_eq, decide_eq_true_eq] at hmark
      all_goals
        intro c hc
        rw [List.eq_of_mem_replicate hc, Bool.or_eq_true, decide_eq_true_eq, decide_eq_true_eq]
        exact hmarker
    · intro c hc
      rcases hrest with hnil | hhead
      · rw [hnil] at hc
        cases hc
      · rw [hhead] at hc
        cases hc
        rfl

/-- The search for a closing line finds the lines that close the fence. -/
theorem fenceClosing?_eq_some_iff {s text rest : List Char}
    (hmarker : marker = '`' ∨ marker = '~') (hcount : 0 < count) :
    fenceClosing? marker count s = some (text, rest) ↔
      s = text ++ rest ∧ ClosesFence marker count text ∧ EndsLine rest := by
  constructor
  · intro h
    exact ⟨fenceClosing?_eq_some h, closesFence_of_fenceClosing? hmarker h⟩
  · rintro ⟨rfl, hcloses, hrest⟩
    exact fenceClosing?_of_closesFence hmarker hcount hcloses hrest

/-!
## The lines of a fence
-/

/-- Within a line no closing line is looked for. -/
theorem fenceBody_false {line : List Char} (hline : '\n' ∉ line) :
    fenceBody marker count false line = (line, []) := by
  induction line with
  | nil => rfl
  | cons c line ih =>
      rw [List.mem_cons, not_or] at hline
      have hc : decide (c = '\n') = false := decide_eq_false fun h => hline.1 h.symm
      simp only [fenceBody, Bool.false_eq_true, if_false, hc, ih hline.2]

theorem fenceBody_false_append {line s : List Char} (hline : '\n' ∉ line) :
    fenceBody marker count false (line ++ '\n' :: s) =
      (line ++ '\n' :: (fenceBody marker count true s).1,
        (fenceBody marker count true s).2) := by
  induction line with
  | nil => rfl
  | cons c line ih =>
      rw [List.mem_cons, not_or] at hline
      have hc : decide (c = '\n') = false := decide_eq_false fun h => hline.1 h.symm
      simp only [List.cons_append, fenceBody, Bool.false_eq_true, if_false, hc, ih hline.2]

theorem fenceBody_cons_of_none {c : Char} {s : List Char}
    (h : fenceClosing? marker count (c :: s) = none) :
    fenceBody marker count true (c :: s) =
      (c :: (fenceBody marker count (c = '\n') s).1, (fenceBody marker count (c = '\n') s).2) := by
  simp only [fenceBody, if_true, h]

/-- A line that does not close a fence is passed over. -/
theorem fenceBody_line {line s : List Char} (hmarker : marker = '`' ∨ marker = '~')
    (hcount : 0 < count) (hline : '\n' ∉ line) (hopen : ¬ ClosesFence marker count line) :
    fenceBody marker count true (line ++ '\n' :: s) =
      (line ++ '\n' :: (fenceBody marker count true s).1,
        (fenceBody marker count true s).2) := by
  have hnone : fenceClosing? marker count (line ++ '\n' :: s) = none := by
    cases h : fenceClosing? marker count (line ++ '\n' :: s) with
    | none => rfl
    | some found =>
        rcases (fenceClosing?_eq_some_iff hmarker hcount).1 h with ⟨hs, hcloses, hrest⟩
        have hsame := eq_of_line_append hline (hcloses.newline_notMem hmarker) hrest hs
        rw [hsame.1] at hcloses
        exact absurd hcloses hopen
  cases line with
  | nil => exact fenceBody_cons_of_none hnone
  | cons c line =>
      rw [List.mem_cons, not_or] at hline
      have hc : decide (c = '\n') = false := decide_eq_false fun h => hline.1 h.symm
      rw [List.cons_append] at hnone ⊢
      rw [fenceBody_cons_of_none hnone, hc, fenceBody_false_append hline.2]
      rfl

/-- A fence ends with the line that closes it. -/
theorem fenceBody_of_closesFence {line after : List Char}
    (hmarker : marker = '`' ∨ marker = '~') (hcount : 0 < count)
    (h : ClosesFence marker count line) (hafter : EndsLine after) :
    fenceBody marker count true (line ++ after) = (line, after) := by
  have hfound := fenceClosing?_of_closesFence hmarker hcount h hafter
  cases line with
  | nil => exact absurd rfl (h.ne_nil hcount)
  | cons c line =>
      rw [List.cons_append] at hfound ⊢
      simp only [fenceBody, if_true, hfound]

/-- A fence that no line closes runs to the end of the text. -/
theorem fenceBody_of_whole {line : List Char} (hmarker : marker = '`' ∨ marker = '~')
    (hcount : 0 < count) (hline : '\n' ∉ line) :
    fenceBody marker count true line = (line, []) := by
  cases line with
  | nil => rfl
  | cons c line =>
      cases h : fenceClosing? marker count (c :: line) with
      | none =>
          rw [List.mem_cons, not_or] at hline
          have hc : decide (c = '\n') = false := decide_eq_false fun h => hline.1 h.symm
          rw [fenceBody_cons_of_none h, hc, fenceBody_false hline.2]
      | some found =>
          rcases (fenceClosing?_eq_some_iff hmarker hcount).1 h with ⟨hs, hcloses, hrest⟩
          rcases hrest.eq_nil_or with hnil | ⟨rest, hrest⟩
          · have hwhole := fenceBody_of_closesFence hmarker hcount hcloses hrest
            rw [← hs] at hwhole
            rw [hwhole, hs, hnil, List.append_nil]
          · rw [hs, hrest] at hline
            exact absurd (List.mem_append_right _ List.mem_cons_self) hline

/-- The search for the end of a fence finds where it ends. -/
theorem fenceBody_body (f : Fence) {after : List Char} (hends : f.Ends after) :
    fenceBody f.marker f.count true (f.body ++ after) = (f.body, after) := by
  rcases f with ⟨marker, count, opening, inner, last, hopens, hunclosed, hwhole⟩
  have hmarker := hopens.marker_eq
  have hcount := hopens.count_pos
  simp only [Fence.body, Fence.Ends] at hends ⊢
  induction inner with
  | nil =>
      rcases hends with ⟨hcloses, hafter⟩ | rfl
      · exact fenceBody_of_closesFence hmarker hcount hcloses hafter
      · simp only [List.flatMap_nil, List.nil_append, List.append_nil]
        exact fenceBody_of_whole hmarker hcount hwhole
  | cons line inner ih =>
      have hline := hunclosed line List.mem_cons_self
      have hinner := ih fun other hother => hunclosed other (List.mem_cons_of_mem line hother)
      simp only [List.flatMap_cons, List.append_assoc, List.cons_append, List.nil_append]
        at hinner ⊢
      rw [fenceBody_line hmarker hcount hline.1 hline.2, hinner]

/-- What stands behind an opening line is lines that do not close the fence, a last line, and
what the fence leaves over. -/
theorem exists_lines (marker : Char) (count : Nat) (s : List Char) :
    exists (inner : List (List Char)) (last after : List Char),
      s = inner.flatMap (· ++ ['\n']) ++ last ++ after ∧
        (∀ line ∈ inner, '\n' ∉ line ∧ ¬ ClosesFence marker count line) ∧ '\n' ∉ last ∧
        (ClosesFence marker count last ∧ EndsLine after ∨ after = []) := by
  have hline : '\n' ∉ s.takeWhile (· != '\n') := by
    intro hmem
    exact absurd (List.mem_takeWhile_imp hmem) (by decide)
  have hrest : EndsLine (s.dropWhile (· != '\n')) := by
    intro c hc
    have hstop := head?_dropWhile c hc
    rwa [bne_eq_false_iff_eq] at hstop
  have hs : s = s.takeWhile (· != '\n') ++ s.dropWhile (· != '\n') :=
    List.takeWhile_append_dropWhile.symm
  by_cases hcloses : ClosesFence marker count (s.takeWhile (· != '\n'))
  · exact ⟨[], _, _, hs, nofun, hline, Or.inl ⟨hcloses, hrest⟩⟩
  · rcases hrest.eq_nil_or with hnil | ⟨rest, hmore⟩
    · refine ⟨[], s.takeWhile (· != '\n'), [], ?_, nofun, hline, Or.inr rfl⟩
      rw [← hnil]
      exact hs
    · have hshorter : rest.length < s.length := by
        have hlength := congrArg List.length hs
        rw [hmore, List.length_append, List.length_cons] at hlength
        omega
      rcases exists_lines marker count rest with ⟨inner, last, after, hlines, hinner, hlast⟩
      refine ⟨s.takeWhile (· != '\n') :: inner, last, after, ?_, ?_, hlast⟩
      · rw [hmore, hlines] at hs
        simp only [List.flatMap_cons, List.append_assoc, List.singleton_append] at hs ⊢
        exact hs
      · intro line hmem
        rcases List.mem_cons.1 hmem with rfl | hmem
        · exact ⟨hline, hcloses⟩
        · exact hinner line hmem
termination_by s.length

/-- The search for a fence finds what a fence is, and nothing else. -/
theorem fence?_eq_some_iff {s text rest : List Char} :
    fence? s = some (text, rest) ↔
      s = text ++ rest ∧ exists f : Fence, f.text = text ∧ f.Ends rest := by
  constructor
  · intro h
    refine ⟨eq_append_of_fence? h, ?_⟩
    rw [fence?, Option.map_eq_some_iff] at h
    rcases h with ⟨o, ho, hbody⟩
    rcases exists_lines o.marker o.count o.rest with
      ⟨inner, last, after, hlines, hinner, hwhole, hends⟩
    let f : Fence := ⟨o.marker, o.count, o.line, inner, last, opensFence_of_fenceOpening? ho,
      hinner, hwhole⟩
    have hrest : o.rest = f.body ++ after := hlines
    rw [hrest, fenceBody_body f hends] at hbody
    cases hbody
    exact ⟨f, rfl, hends⟩
  · rintro ⟨rfl, f, rfl, hends⟩
    rw [Fence.text, List.append_assoc, fence?, fenceOpening?_of_opensFence f.opens,
      Option.map_some, fenceBody_body f hends]

/-!
## The fences of a text
-/

theorem startsLine_singleton_iff {before : List Char} {c : Char} :
    StartsLine (before ++ [c]) ↔ c = '\n' := by
  rw [startsLine_append (List.cons_ne_nil c [])]
  constructor
  · intro h
    exact h c rfl
  · rintro rfl d ⟨⟩
    rfl

/-- Nothing stands in the last line of a fence behind it. -/
theorem IsFence.endsLine {before text after : List Char} (h : IsFence before text after) :
    EndsLine after := by
  rcases h with ⟨-, f, -, ⟨-, hafter⟩ | rfl⟩
  · exact hafter
  · exact endsLine_nil

/-- No line starts right behind a fence. -/
theorem IsFence.not_startsLine {before text after : List Char} (h : IsFence before text after)
    (hafter : after ≠ []) : ¬ StartsLine (before ++ text) := by
  rcases h with ⟨-, f, rfl, ⟨hcloses, -⟩ | rfl⟩
  · have hne := hcloses.ne_nil f.opens.count_pos
    rw [Fence.text, Fence.body, ← List.append_assoc, ← List.append_assoc, startsLine_append hne]
    intro hstarts
    have hlast := hstarts _ (List.getLast?_eq_getLast_of_ne_nil hne)
    exact f.whole (hlast ▸ List.getLast_mem hne)
  · exact absurd rfl hafter

/-- Whether no fence starts at a place. -/
def NoFence (before after : List Char) : Prop :=
  StartsLine before -> fence? after = none

/-- Whether a stretch is a fence. -/
def FenceIn (before : List Char) : Stretch -> List Char -> Prop
  | .fence t, after => IsFence before t after
  | _, _ => False

/-- Fences stand where they were found, and no fence starts between them. -/
theorem laid_fences {atStart : Bool} {s before : List Char}
    (h : s ≠ [] -> (atStart = true ↔ StartsLine before)) :
    Laid NoFence FenceIn before (fences atStart s) := by
  fun_induction fences atStart s generalizing before with
  | case1 => exact trivial
  | case2 c rest found hfound ih =>
      have hfence : IsFence before found.1 found.2 :=
        ⟨(h (List.cons_ne_nil c rest)).1 rfl, (fence?_eq_some_iff.1 hfound).2⟩
      refine ⟨?_, ih ?_⟩
      · rw [flatMap_text_fences]
        exact hfence
      · intro hne
        exact iff_of_false Bool.false_ne_true (hfence.not_startsLine hne)
  | case3 c rest hnone ih =>
      apply laid_consProse
      · intro _
        rwa [flatMap_text_fences]
      · apply ih
        intro _
        rw [decide_eq_true_eq, startsLine_singleton_iff]
  | case4 atStart c rest hstart ih =>
      apply laid_consProse
      · intro hstarts
        exact absurd ((h (List.cons_ne_nil c rest)).2 hstarts) hstart
      · apply ih
        intro _
        rw [decide_eq_true_eq, startsLine_singleton_iff]

end Math
end Folio
