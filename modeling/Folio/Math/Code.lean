import Folio.Text.Blank
import Folio.Text.Search

/-!
# Code in a source text

Code keeps its dollar signs, so it is found before any math is. A fence is a line
of at least three backticks or tildes, after at most three blanks; it runs to the
next line that begins with the same run, or to the end of the text. In what the
fences leave over, a run of backticks opens a code span that the next run of the
same length closes, unless a blank line comes first.

`stretches` cuts a text into fences, spans and the prose between them, and nothing
is lost: `flatMap_text_stretches` says that the stretches put together are the text.
-/

namespace Folio
namespace Math

open Text

/-- A stretch of a source text. -/
inductive Stretch where
  | prose (text : List Char)
  | fence (text : List Char)
  | span (text : List Char)
  deriving DecidableEq, Repr

/-- The characters of a stretch. -/
def Stretch.text : Stretch -> List Char
  | .prose s => s
  | .fence s => s
  | .span s => s

/-- Whether a stretch is code. -/
def Stretch.isCode : Stretch -> Bool
  | .prose _ => false
  | _ => true

/-- Put a character in front of the first stretch, if that is prose, or else in a
stretch of its own. -/
def consProse (c : Char) : List Stretch -> List Stretch
  | .prose s :: rest => .prose (c :: s) :: rest
  | rest => .prose [c] :: rest

/-- Whether a text starts with a line end, blanks, and another line end. -/
def startsBlankLine : List Char -> Bool
  | '\n' :: rest =>
      match rest.dropWhile isSpace with
      | '\n' :: _ => true
      | _ => false
  | _ => false

/-! ## Fences -/

/-- A line that opens a fence, with its line end. -/
structure FenceOpening where
  marker : Char
  count : Nat
  line : List Char
  rest : List Char

/-- The fence that a text at the start of a line opens. -/
def fenceOpening? (s : List Char) : Option FenceOpening :=
  let blanks := s.takeWhile isSpace
  let body := s.dropWhile isSpace
  match body with
  | [] => none
  | marker :: _ =>
      let count := (body.takeWhile (· = marker)).length
      let line := body.takeWhile (· ≠ '\n')
      if 3 < blanks.length || !(marker = '`' || marker = '~') || count < 3 then
        none
      else
        match body.dropWhile (· ≠ '\n') with
        | [] => none
        | newline :: rest => some ⟨marker, count, blanks ++ line ++ [newline], rest⟩

/-- The closing line of a fence at the start of a line, without its line end. -/
def fenceClosing? (marker : Char) (count : Nat) (s : List Char) :
    Option (List Char × List Char) :=
  let blanks := s.takeWhile isSpace
  let body := s.dropWhile isSpace
  let run := body.takeWhile fun c => c = '`' || c = '~'
  let tail := (body.dropWhile fun c => c = '`' || c = '~').takeWhile isSpace
  let rest := (body.dropWhile fun c => c = '`' || c = '~').dropWhile isSpace
  let closes :=
    blanks.length ≤ 3 ∧ count ≤ (body.takeWhile (· = marker)).length ∧
      (rest = [] ∨ rest.head? = some '\n')
  if closes then some (blanks ++ run ++ tail, rest) else none

/-- What a fence holds from here on, up to and with its closing line, and what follows
it. `atStart` says whether a line starts here. -/
def fenceBody (marker : Char) (count : Nat) (atStart : Bool) :
    List Char -> List Char × List Char
  | [] => ([], [])
  | c :: rest =>
      match (if atStart then fenceClosing? marker count (c :: rest) else none) with
      | some closed => closed
      | none =>
          let more := fenceBody marker count (c = '\n') rest
          (c :: more.1, more.2)

/-- The fence at the start of a line, and what follows it. -/
def fence? (s : List Char) : Option (List Char × List Char) :=
  (fenceOpening? s).map fun opening =>
    let body := fenceBody opening.marker opening.count true opening.rest
    (opening.line ++ body.1, body.2)

theorem fenceOpening?_eq_some {s : List Char} {o : FenceOpening}
    (h : fenceOpening? s = some o) : s = o.line ++ o.rest ∧ o.line ≠ [] := by
  unfold fenceOpening? at h
  simp only at h
  split at h
  · cases h
  · rename_i marker tail hbody
    split at h
    · cases h
    · split at h
      · cases h
      · rename_i newline rest hrest
        cases h
        refine ⟨?_, by simp⟩
        have h1 := List.takeWhile_append_dropWhile (p := isSpace) (l := s)
        have h2 := List.takeWhile_append_dropWhile
          (p := fun c => decide (c ≠ '\n')) (l := s.dropWhile isSpace)
        rw [hrest] at h2
        rw [List.append_assoc, List.append_assoc, List.singleton_append, h2, h1]

theorem fenceClosing?_eq_some {marker : Char} {count : Nat} {s text rest : List Char}
    (h : fenceClosing? marker count s = some (text, rest)) : s = text ++ rest := by
  unfold fenceClosing? at h
  simp only at h
  split at h
  · cases h
    have h1 := List.takeWhile_append_dropWhile (p := isSpace) (l := s)
    have h2 := List.takeWhile_append_dropWhile
      (p := fun c => decide (c = '`') || decide (c = '~')) (l := s.dropWhile isSpace)
    have h3 := List.takeWhile_append_dropWhile (p := isSpace)
      (l := (s.dropWhile isSpace).dropWhile fun c => decide (c = '`') || decide (c = '~'))
    rw [List.append_assoc, List.append_assoc, h3, h2, h1]
  · cases h

theorem fenceBody_append (marker : Char) (count : Nat) (atStart : Bool) (s : List Char) :
    (fenceBody marker count atStart s).1 ++ (fenceBody marker count atStart s).2 = s := by
  induction s generalizing atStart with
  | nil => rfl
  | cons c rest ih =>
      unfold fenceBody
      split
      · rename_i closed h
        obtain ⟨text, after⟩ := closed
        cases atStart with
        | false => simp at h
        | true => exact (fenceClosing?_eq_some (by simpa using h)).symm
      · simp [ih]

/-- A fence and what follows it make up the text, and the fence is not empty. -/
theorem fence?_eq_some {s text rest : List Char} (h : fence? s = some (text, rest)) :
    s = text ++ rest ∧ text ≠ [] := by
  unfold fence? at h
  rw [Option.map_eq_some_iff] at h
  obtain ⟨o, ho, hs⟩ := h
  obtain ⟨hsplit, hne⟩ := fenceOpening?_eq_some ho
  simp only [Prod.mk.injEq] at hs
  obtain ⟨rfl, rfl⟩ := hs
  refine ⟨?_, by simp [hne]⟩
  rw [List.append_assoc, fenceBody_append]
  exact hsplit

theorem eq_append_of_fence? {s : List Char} {found : List Char × List Char}
    (h : fence? s = some found) : s = found.1 ++ found.2 :=
  (fence?_eq_some h).1

theorem fence?_length {s text rest : List Char} (h : fence? s = some (text, rest)) :
    rest.length < s.length := by
  obtain ⟨rfl, hne⟩ := fence?_eq_some h
  have := List.length_pos_iff.2 hne
  simp only [List.length_append]
  omega

/-- Cut a text into fences and the prose between them. -/
def fences (atStart : Bool) (s : List Char) : List Stretch :=
  match s with
  | [] => []
  | c :: rest =>
      if atStart then
        match _h : fence? (c :: rest) with
        | some found => .fence found.1 :: fences false found.2
        | none => consProse c (fences (c = '\n') rest)
      else
        consProse c (fences (c = '\n') rest)
termination_by s.length
decreasing_by
  · exact fence?_length (by assumption)
  · simp
  · simp

/-! ## Code spans -/

/-- The content and closing run of a code span that `count` backticks opened; `run`
backticks stand right before this point. -/
def spanEnd? (count : Nat) (run : Nat) : List Char -> Option (List Char × List Char)
  | [] => if run = count then some ([], []) else none
  | c :: rest =>
      if c = '`' then
        (spanEnd? count (run + 1) rest).map fun found => (c :: found.1, found.2)
      else if run = count then
        some ([], c :: rest)
      else if startsBlankLine (c :: rest) then
        none
      else
        (spanEnd? count 0 rest).map fun found => (c :: found.1, found.2)

theorem spanEnd?_eq_some {count run : Nat} {s text rest : List Char}
    (h : spanEnd? count run s = some (text, rest)) : s = text ++ rest := by
  induction s generalizing run text with
  | nil =>
      simp only [spanEnd?] at h
      split at h
      · cases h; rfl
      · cases h
  | cons c tail ih =>
      simp only [spanEnd?] at h
      split at h
      · rw [Option.map_eq_some_iff] at h
        obtain ⟨⟨t, r⟩, hf, he⟩ := h
        cases he
        simp [ih hf]
      · split at h
        · cases h; rfl
        · split at h
          · cases h
          · rw [Option.map_eq_some_iff] at h
            obtain ⟨⟨t, r⟩, hf, he⟩ := h
            cases he
            simp [ih hf]

theorem eq_append_of_spanEnd? {count run : Nat} {s : List Char}
    {found : List Char × List Char} (h : spanEnd? count run s = some found) :
    s = found.1 ++ found.2 :=
  spanEnd?_eq_some h

theorem length_dropWhile_le (p : Char -> Bool) (s : List Char) :
    (s.dropWhile p).length ≤ s.length := by
  have := congrArg List.length (List.takeWhile_append_dropWhile (p := p) (l := s))
  simp only [List.length_append] at this
  omega

/-- Cut prose into code spans and the prose between them. -/
def spans (s : List Char) : List Stretch :=
  match s with
  | [] => []
  | c :: rest =>
      if c = '`' then
        let run := rest.takeWhile (· = '`')
        let after := rest.dropWhile (· = '`')
        match _h : spanEnd? (run.length + 1) 0 after with
        | some found => .span (c :: run ++ found.1) :: spans found.2
        | none => (c :: run).foldr consProse (spans after)
      else
        consProse c (spans rest)
termination_by s.length
decreasing_by
  · have h1 := congrArg List.length (eq_append_of_spanEnd? _h)
    have h2 : after.length ≤ rest.length := length_dropWhile_le _ _
    simp only [List.length_append] at h1
    simp only [List.length_cons]
    omega
  · have h2 := length_dropWhile_le (· = '`') rest
    simp only [List.length_cons]
    omega
  · simp

/-- Look for code spans in prose. -/
def Stretch.refine : Stretch -> List Stretch
  | .prose text => spans text
  | .fence text => [.fence text]
  | .span text => [.span text]

/-- Cut a text into fences, code spans and prose. -/
def stretches (s : List Char) : List Stretch :=
  (fences true s).flatMap Stretch.refine

/-! ## Nothing is lost -/

theorem flatMap_text_consProse (c : Char) (l : List Stretch) :
    (consProse c l).flatMap Stretch.text = c :: l.flatMap Stretch.text := by
  unfold consProse
  split <;> simp [Stretch.text]

theorem flatMap_text_foldr_consProse (s : List Char) (l : List Stretch) :
    (s.foldr consProse l).flatMap Stretch.text = s ++ l.flatMap Stretch.text := by
  induction s with
  | nil => rfl
  | cons c rest ih => simp [flatMap_text_consProse, ih]

theorem flatMap_text_fences (atStart : Bool) (s : List Char) :
    (fences atStart s).flatMap Stretch.text = s := by
  fun_induction fences atStart s with
  | case1 => rfl
  | case2 c rest found h ih =>
      have := eq_append_of_fence? h
      simp only [List.flatMap_cons, Stretch.text, ih]
      exact this.symm
  | case3 c rest _ ih => rw [flatMap_text_consProse, ih]
  | case4 atStart c rest _ ih => rw [flatMap_text_consProse, ih]

theorem flatMap_text_spans (s : List Char) : (spans s).flatMap Stretch.text = s := by
  fun_induction spans s with
  | case1 => rfl
  | case2 rest run after found h ih =>
      have h1 := eq_append_of_spanEnd? h
      have h2 : run ++ after = rest := List.takeWhile_append_dropWhile
      simp only [List.flatMap_cons, Stretch.text, ih]
      rw [← h2, h1]
      simp
  | case3 rest run after h ih =>
      have h2 : run ++ after = rest := List.takeWhile_append_dropWhile
      rw [flatMap_text_foldr_consProse, ih, List.cons_append, h2]
  | case4 c rest _ ih => rw [flatMap_text_consProse, ih]

theorem flatMap_text_refine (x : Stretch) : x.refine.flatMap Stretch.text = x.text := by
  cases x <;> simp [Stretch.refine, Stretch.text, flatMap_text_spans]

theorem flatMap_text_flatMap_refine (l : List Stretch) :
    (l.flatMap Stretch.refine).flatMap Stretch.text = l.flatMap Stretch.text := by
  induction l with
  | nil => rfl
  | cons x rest ih => simp [flatMap_text_refine, ih]

/-- The stretches put together are the text. -/
theorem flatMap_text_stretches (s : List Char) :
    (stretches s).flatMap Stretch.text = s := by
  rw [stretches, flatMap_text_flatMap_refine, flatMap_text_fences]

end Math
end Folio
