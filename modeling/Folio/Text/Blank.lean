import Folio.Text.Ranges

/-!
# Blank characters

Spaces, tabs, line ends and the other characters that only keep words apart,
with the operations that trim a text or cut it at them.
-/

namespace Folio
namespace Text

/-- Spaces, tabs, line ends and separators of information. -/
def blankRanges : Ranges :=
    [(0x9, 0xD), (0x1C, 0x20), (0x85, 0x85), (0xA0, 0xA0), (0x1680, 0x1680), (0x2000, 0x200A),
     (0x2028, 0x2029), (0x202F, 0x202F), (0x205F, 0x205F), (0x3000, 0x3000)]

/-- Whether a character only keeps words apart. -/
def isBlank (c : Char) : Bool :=
  blankRanges.holds c.toNat

/-- Whether a character is a blank of prose: separators of information and the next-line
control stand in prose like letters. -/
def isProseBlank (c : Char) : Bool :=
  isBlank c && !(Nat.ble 0x1C c.toNat && Nat.ble c.toNat 0x1F) && c.toNat != 0x85

/-- Whether a character is a space or a tab. -/
def isSpace (c : Char) : Bool :=
  c = ' ' || c = '\t'

/-- Drop the blanks at the start. -/
def trimLeft (s : List Char) : List Char :=
  s.dropWhile isBlank

/-- Drop the characters at the end that satisfy `p`. -/
def dropRightWhile (p : Char -> Bool) : List Char -> List Char
  | [] => []
  | c :: rest =>
      match dropRightWhile p rest with
      | [] => if p c then [] else [c]
      | kept => c :: kept

/-- Drop the blanks at the end. -/
def trimRight (s : List Char) : List Char :=
  dropRightWhile isBlank s

/-- Drop the blanks at both ends. -/
def trim (s : List Char) : List Char :=
  trimRight (trimLeft s)

/-- Drop the blanks of prose at both ends. -/
def trimProse (s : List Char) : List Char :=
  dropRightWhile isProseBlank (s.dropWhile isProseBlank)

/-- Whether a text holds nothing but blanks. -/
def allBlank (s : List Char) : Bool :=
  s.all isBlank

/-- The maximal runs of characters that do not satisfy `p`, in order. -/
def runsWithout (p : Char -> Bool) : List Char -> List (List Char)
  | [] => []
  | c :: rest =>
      if p c then
        runsWithout p rest
      else
        match rest, runsWithout p rest with
        | d :: _, w :: ws => if p d then [c] :: w :: ws else (c :: w) :: ws
        | _, ws => [c] :: ws

/-- The maximal runs of characters that are not blank, in order. -/
def words (s : List Char) : List (List Char) :=
  runsWithout isBlank s

@[simp] theorem dropRightWhile_nil (p : Char -> Bool) : dropRightWhile p [] = [] := rfl

theorem dropRightWhile_cons (p : Char -> Bool) (c : Char) (rest : List Char) :
    dropRightWhile p (c :: rest) =
      match dropRightWhile p rest with
      | [] => if p c then [] else [c]
      | kept => c :: kept := rfl

/-- Nothing is left of a text exactly when every character was to be dropped. -/
theorem dropRightWhile_eq_nil_iff (p : Char -> Bool) (s : List Char) :
    dropRightWhile p s = [] ↔ s.all p = true := by
  induction s with
  | nil => simp
  | cons c rest ih =>
      rw [dropRightWhile_cons, List.all_cons]
      cases h : dropRightWhile p rest with
      | nil =>
          have := ih.1 h
          cases hc : p c <;> simp [this]
      | cons d kept =>
          have : rest.all p = false := by
            cases hr : rest.all p with
            | true => rw [ih.2 hr] at h; cases h
            | false => rfl
          simp [this]

/-- What is dropped is a run at the end, and all of it satisfies `p`. -/
theorem dropRightWhile_append (p : Char -> Bool) (s : List Char) :
    ∃ tail, s = dropRightWhile p s ++ tail ∧ tail.all p = true := by
  induction s with
  | nil => exact ⟨[], rfl, rfl⟩
  | cons c rest ih =>
      obtain ⟨tail, hs, ht⟩ := ih
      rw [dropRightWhile_cons]
      cases h : dropRightWhile p rest with
      | nil =>
          rw [h, List.nil_append] at hs
          cases hc : p c with
          | true => exact ⟨c :: tail, by simp [hs], by simp [hc, ht]⟩
          | false => exact ⟨tail, by simp [hs], ht⟩
      | cons d kept =>
          refine ⟨tail, ?_, ht⟩
          rw [h] at hs
          simp [hs]

end Text
end Folio
