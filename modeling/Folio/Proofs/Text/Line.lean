import Mathlib.Data.List.Basic
import Mathlib.Data.List.TakeWhile

/-!
# Runs and lines of a text

A run of characters of one kind ends in front of the first character of another kind, and a
line in front of the first line end. A text is therefore cut in one way only into a run, or a
line, and what stands behind it.
-/

namespace Folio
namespace Text

/-!
## The ends of a run
-/

section

variable {p : Char -> Bool} {inside rest : List Char}

theorem takeWhile_append_exact (hinside : ∀ c ∈ inside, p c = true)
    (hrest : ∀ c ∈ rest.head?, p c = false) : (inside ++ rest).takeWhile p = inside := by
  rw [List.takeWhile_append_of_pos hinside]
  cases rest with
  | nil => exact List.append_nil inside
  | cons c rest =>
      rw [List.takeWhile_cons, hrest c rfl]
      exact List.append_nil inside

theorem dropWhile_append_exact (hinside : ∀ c ∈ inside, p c = true)
    (hrest : ∀ c ∈ rest.head?, p c = false) : (inside ++ rest).dropWhile p = rest := by
  rw [List.dropWhile_append_of_pos hinside]
  cases rest with
  | nil => rfl
  | cons c rest =>
      rw [List.dropWhile_cons, hrest c rfl]
      rfl

theorem head?_dropWhile {s : List Char} : ∀ c ∈ (s.dropWhile p).head?, p c = false := by
  intro c hc
  have hkept := List.head?_dropWhile_not p s
  rw [hc] at hkept
  exact hkept

end

theorem takeWhile_eq_replicate (marker : Char) (s : List Char) :
    s.takeWhile (· = marker) = List.replicate (s.takeWhile (· = marker)).length marker := by
  apply List.eq_replicate_of_mem
  intro c hc
  have hkept := List.mem_takeWhile_imp hc
  exact of_decide_eq_true hkept

theorem exists_replicate_append_of_le {count : Nat} {marker : Char} {s : List Char}
    (h : count ≤ (s.takeWhile (· = marker)).length) :
    exists t, s = List.replicate count marker ++ t := by
  rcases Nat.exists_eq_add_of_le h with ⟨more, hmore⟩
  refine ⟨List.replicate more marker ++ s.dropWhile (· = marker), ?_⟩
  conv_lhs => rw [← List.takeWhile_append_dropWhile (p := (· = marker)) (l := s),
    takeWhile_eq_replicate, hmore, List.replicate_add, List.append_assoc]

/-!
## Lines
-/

/-- Whether a line starts behind a text. -/
def StartsLine (before : List Char) : Prop :=
  ∀ c ∈ before.getLast?, c = '\n'

/-- Whether a line ends in front of a text. -/
def EndsLine (after : List Char) : Prop :=
  ∀ c ∈ after.head?, c = '\n'

theorem startsLine_nil : StartsLine [] := nofun

theorem endsLine_nil : EndsLine [] := nofun

theorem startsLine_append {a b : List Char} (hb : b ≠ []) :
    StartsLine (a ++ b) ↔ StartsLine b := by
  rw [StartsLine, StartsLine, List.getLast?_append_of_ne_nil _ hb]

theorem EndsLine.eq_nil_or {after : List Char} (h : EndsLine after) :
    after = [] ∨ exists rest, after = '\n' :: rest := by
  cases after with
  | nil => exact Or.inl rfl
  | cons c rest => exact Or.inr ⟨rest, by rw [h c rfl]⟩

/-- The line that a text starts with ends at the first line end. -/
theorem eq_of_line_append {line other s after : List Char} (hline : '\n' ∉ line)
    (hother : '\n' ∉ other) (hafter : EndsLine after)
    (h : line ++ '\n' :: s = other ++ after) : other = line ∧ after = '\n' :: s := by
  have hnot {t : List Char} (ht : '\n' ∉ t) : ∀ c ∈ t, (c != '\n') = true := by
    intro c hc
    rw [bne_iff_ne]
    rintro rfl
    exact ht hc
  have hstop : ∀ c ∈ after.head?, (c != '\n') = false := by
    intro c hc
    rw [hafter c hc]
    rfl
  have htake := congrArg (List.takeWhile (· != '\n')) h
  rw [takeWhile_append_exact (hnot hline) (by rintro c ⟨⟩; rfl),
    takeWhile_append_exact (hnot hother) hstop] at htake
  rw [htake] at h
  exact ⟨htake.symm, (List.append_cancel_left h).symm⟩

end Text
end Folio
