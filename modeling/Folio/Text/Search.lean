/-!
# Searching and cutting text

Texts are lists of characters. Here are the searches for a fixed text inside
another, the replacement of all its occurrences, and cutting at a separator.
-/

namespace Folio
namespace Text

/-- What follows `pre` at the start of a text. -/
def dropPrefix? (pre s : List Char) : Option (List Char) :=
  match pre, s with
  | [], s => some s
  | _ :: _, [] => none
  | p :: ps, c :: cs => if p = c then dropPrefix? ps cs else none

/-- Whether a text starts with `pre`. -/
def startsWith (pre s : List Char) : Bool :=
  (dropPrefix? pre s).isSome

/-- Whether `part` occurs somewhere in a text. -/
def occurs (part : List Char) : List Char -> Bool
  | [] => part.isEmpty
  | c :: rest => startsWith part (c :: rest) || occurs part rest

/-- The text before the first occurrence of `part` and the text after it. -/
def breakOn? (part : List Char) : List Char -> Option (List Char × List Char)
  | [] => if part.isEmpty then some ([], []) else none
  | c :: rest =>
      match dropPrefix? part (c :: rest) with
      | some after => some ([], after)
      | none => (breakOn? part rest).map fun r => (c :: r.1, r.2)

/-- Rewrite a text from left to right. Where `find?` finds something at the start of
what is left, its new text is written, and the reading goes on behind it; `skip`
characters are still to be passed over. -/
def rewriteFrom (find? : List Char -> Option (List Char × List Char)) (skip : Nat) :
    List Char -> List Char
  | [] => []
  | c :: rest =>
      match skip with
      | n + 1 => rewriteFrom find? n rest
      | 0 =>
          match find? (c :: rest) with
          | some (new, after) => new ++ rewriteFrom find? (rest.length - after.length) rest
          | none => c :: rewriteFrom find? 0 rest

/-- Rewrite a whole text. `find?` gives the new text for what it finds at the start of a
text, and what follows that. -/
def rewrite (find? : List Char -> Option (List Char × List Char)) (s : List Char) :
    List Char :=
  rewriteFrom find? 0 s

/-- Replace every occurrence of a text, leftmost first. The empty text occurs before
every character and at the end. -/
def replaceAll (old new s : List Char) : List Char :=
  if old.isEmpty then
    new ++ s.flatMap fun c => c :: new
  else
    rewrite (fun s => (dropPrefix? old s).map fun rest => (new, rest)) s

/-- Cut a text at every occurrence of a character. -/
def splitOn (sep : Char) : List Char -> List (List Char)
  | [] => [[]]
  | c :: rest =>
      if c = sep then
        [] :: splitOn sep rest
      else
        match splitOn sep rest with
        | [] => [[c]]
        | first :: others => (c :: first) :: others

/-- Put `sep` between the parts. -/
def joinWith (sep : List Char) : List (List Char) -> List Char
  | [] => []
  | [part] => part
  | part :: others => part ++ sep ++ joinWith sep others

@[simp] theorem dropPrefix?_nil (s : List Char) : dropPrefix? [] s = some s := by
  cases s <;> rfl

theorem dropPrefix?_eq_some_iff {pre s rest : List Char} :
    dropPrefix? pre s = some rest ↔ s = pre ++ rest := by
  induction pre generalizing s with
  | nil => simp [eq_comm]
  | cons p ps ih =>
      cases s with
      | nil => simp [dropPrefix?]
      | cons c cs =>
          by_cases h : p = c
          · simp [dropPrefix?, h, ih]
          · have h' : ¬ c = p := fun e => h e.symm
            simp [dropPrefix?, h, h']

theorem startsWith_iff {pre s : List Char} :
    startsWith pre s = true ↔ ∃ rest, s = pre ++ rest := by
  rw [startsWith, Option.isSome_iff_exists]
  exact ⟨fun ⟨r, h⟩ => ⟨r, dropPrefix?_eq_some_iff.1 h⟩,
    fun ⟨r, h⟩ => ⟨r, dropPrefix?_eq_some_iff.2 h⟩⟩

theorem occurs_iff {part s : List Char} :
    occurs part s = true ↔ ∃ before after, s = before ++ part ++ after := by
  induction s with
  | nil =>
      cases part <;> simp [occurs]
  | cons c rest ih =>
      rw [occurs, Bool.or_eq_true, ih, startsWith_iff]
      constructor
      · rintro (⟨r, h⟩ | ⟨b, a, h⟩)
        · exact ⟨[], r, by simpa using h⟩
        · exact ⟨c :: b, a, by simp [h]⟩
      · rintro ⟨b, a, h⟩
        cases b with
        | nil => exact Or.inl ⟨a, by simpa using h⟩
        | cons d b' =>
            simp only [List.cons_append, List.cons.injEq] at h
            exact Or.inr ⟨b', a, h.2⟩

@[simp] theorem rewrite_nil (find? : List Char -> Option (List Char × List Char)) :
    rewrite find? [] = [] := rfl

theorem rewrite_cons_of_none {find? : List Char -> Option (List Char × List Char)}
    {c : Char} {rest : List Char} (h : find? (c :: rest) = none) :
    rewrite find? (c :: rest) = c :: rewrite find? rest := by
  simp only [rewrite, rewriteFrom, h]

/-- The characters to be passed over are passed over. -/
theorem rewriteFrom_length_append (find? : List Char -> Option (List Char × List Char))
    (old rest : List Char) :
    rewriteFrom find? old.length (old ++ rest) = rewriteFrom find? 0 rest := by
  induction old with
  | nil => rfl
  | cons c old ih => simpa only [List.length_cons, List.cons_append, rewriteFrom] using ih

theorem rewrite_append_of_some {find? : List Char -> Option (List Char × List Char)}
    {old new rest : List Char} (hne : old ≠ [])
    (h : find? (old ++ rest) = some (new, rest)) :
    rewrite find? (old ++ rest) = new ++ rewrite find? rest := by
  cases old with
  | nil => exact absurd rfl hne
  | cons c old =>
      have hlength : (old ++ rest).length - rest.length = old.length := by
        rw [List.length_append]
        omega
      rw [List.cons_append] at h
      simp only [rewrite, rewriteFrom, List.cons_append, h, hlength]
      rw [rewriteFrom_length_append]

theorem splitOn_ne_nil (sep : Char) (s : List Char) : splitOn sep s ≠ [] := by
  cases s with
  | nil => simp [splitOn]
  | cons c rest =>
      by_cases h : c = sep
      · simp [splitOn, h]
      · cases hr : splitOn sep rest <;> simp [splitOn, h, hr]

/-- Cutting at a character and putting it back between the parts gives the text. -/
theorem joinWith_splitOn (sep : Char) (s : List Char) :
    joinWith [sep] (splitOn sep s) = s := by
  induction s with
  | nil => rfl
  | cons c rest ih =>
      by_cases h : c = sep
      · subst h
        cases hr : splitOn c rest with
        | nil => exact absurd hr (splitOn_ne_nil c rest)
        | cons a l =>
            rw [hr] at ih
            simp [splitOn, hr, joinWith, ih]
      · cases hr : splitOn sep rest with
        | nil => exact absurd hr (splitOn_ne_nil sep rest)
        | cons a l =>
            rw [hr] at ih
            cases l with
            | nil => simp [splitOn, h, hr, joinWith] at ih ⊢; exact ih
            | cons b l' => simp [splitOn, h, hr, joinWith] at ih ⊢; exact ih

end Text
end Folio
