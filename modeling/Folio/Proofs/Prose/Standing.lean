import Folio.Proofs.Html.Standing
import Folio.Proofs.Prose.Fragment

/-!
# Where written tags stand

A tag stands in what is written because the renderer wrote it, or because it was given: it
is part of markup that is passed on. The renderer writes it in vain where a comment is open.
-/

namespace Folio
namespace Prose

open Html

/-- A fragment with an empty tag in the place of what the renderer writes by itself. -/
def Fragment.bare : Fragment -> Fragment
  | .tag _ => .tag (.plain [])
  | f => f

/-- How often a tag stands outside of comments in what is given. The empty tags keep what is
given on both sides of a tag apart. -/
def given (w : List Char) (fragments : List Fragment) : Nat :=
  standings w (writeAll (fragments.map Fragment.bare))

def Fragment.writes (w : List Char) : Fragment -> Bool
  | .tag t => t.markup = w
  | _ => false

/-- How often a tag is written where no comment is open, if `before` is written in front. -/
def writtenOutside (w before : List Char) : List Fragment -> Nat
  | [] => 0
  | f :: rest =>
      writtenOutside w (before ++ f.markup) rest +
        (if !endsInComment before && f.writes w then 1 else 0)

theorem writtenOutside_eq_zero {w : List Char} {fragments : List Fragment}
    (h : ∀ t ∈ tagsOf fragments, t.markup ≠ w) (before : List Char) :
    writtenOutside w before fragments = 0 := by
  induction fragments generalizing before with
  | nil => rfl
  | cons f rest ih =>
      cases f with
      | text s | passed s =>
          rw [writtenOutside, ih h]
          simp [Fragment.writes]
      | tag t =>
          rw [writtenOutside, ih fun u hu => h u (List.mem_cons_of_mem t hu)]
          simp [Fragment.writes, h t List.mem_cons_self]

/-- Whether `w` stands `k` times more in one text than in another, and a comment is open
behind both or neither, whatever follows. -/
def Exceeds (w : List Char) (k : Nat) (a b : List Char) : Prop :=
  forall x, scan w false (a ++ x) = ((scan w false (b ++ x)).1 + k, (scan w false (b ++ x)).2)

section Exceeds

variable {w a b : List Char} {k : Nat}

theorem Exceeds.append (h : Exceeds w k a b) (s : List Char) :
    Exceeds w k (a ++ s) (b ++ s) := by
  intro x
  rw [List.append_assoc, List.append_assoc]
  exact h (s ++ x)

theorem Exceeds.tag (hw : IsTag w) (h : Exceeds w k a b) {t u : List Char} (ht : IsTag t)
    (hu : IsTag u) (hne : u ≠ w) :
    Exceeds w (k + if !endsInComment a && t = w then 1 else 0) (a ++ t) (b ++ u) := by
  have hend := h []
  rw [List.append_nil, List.append_nil] at hend
  intro x
  rw [scan_append_tag hw ht, scan_append_tag hw hu, endsInComment, scan_snd (w := w) [], hend,
    decide_eq_false hne, Bool.and_false, if_neg Bool.false_ne_true]
  dsimp only
  congr 1
  omega

end Exceeds

theorem isTag_bare : IsTag (Tag.plain []).markup :=
  ⟨[], rfl, inner_nil⟩

/-- What is written exceeds what is given by the tags that are written. -/
theorem exceeds_writeAll {w : List Char} (hw : IsTag w) (hne : (Tag.plain []).markup ≠ w)
    {fragments : List Fragment} (h : ∀ t ∈ tagsOf fragments, IsTag t.markup) {k : Nat}
    {before others : List Char} (hbefore : Exceeds w k before others) :
    Exceeds w (k + writtenOutside w before fragments) (before ++ writeAll fragments)
      (others ++ writeAll (fragments.map Fragment.bare)) := by
  -- What was written so far moves into `before`, and what it counts for into `k`.
  induction fragments generalizing k before others with
  | nil => exact hbefore.append []
  | cons f rest ih =>
      rw [List.map_cons, writeAll_cons, writeAll_cons, ← List.append_assoc, ← List.append_assoc,
        writtenOutside, Nat.add_comm (writtenOutside _ _ _), ← Nat.add_assoc]
      cases f with
      | text s | passed s =>
          simp only [Fragment.writes, Bool.and_false, Bool.false_eq_true, if_false]
          exact ih h (hbefore.append _)
      | tag t =>
          apply ih fun u hu => h u (List.mem_cons_of_mem t hu)
          exact hbefore.tag hw (h t List.mem_cons_self) isTag_bare hne

/-- A tag stands as often as it is written where no comment is open, and as it is given. -/
theorem standings_writeAll {w : List Char} (hw : IsTag w) (hne : (Tag.plain []).markup ≠ w)
    {fragments : List Fragment} (h : ∀ t ∈ tagsOf fragments, IsTag t.markup) :
    standings w (writeAll fragments) = writtenOutside w [] fragments + given w fragments := by
  have hstart : Exceeds w 0 [] [] := fun x => rfl
  have hall := exceeds_writeAll hw hne h hstart []
  rw [List.append_nil, List.append_nil, Nat.zero_add] at hall
  rw [standings, ← List.nil_append (writeAll fragments), hall, Nat.add_comm]
  rfl

end Prose
end Folio
