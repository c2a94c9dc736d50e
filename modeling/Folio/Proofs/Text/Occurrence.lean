import Folio.Proofs.Text.Rewriting

/-!
# Where a text occurs

The positions of all occurrences of one text in another, those that overlap included.
-/

namespace Folio
namespace Text

/-!
## Texts that are put together
-/

/-- A text cannot occur across a character that it does not hold. -/
theorem not_occurs_append_cons {w a b : List Char} {c : Char} (hw : w ≠ []) (hc : c ∉ w)
    (ha : occurs w a = false) (hb : occurs w b = false) : occurs w (a ++ c :: b) = false := by
  have hlast : occurs w (a ++ [c]) = false := by
    rw [Bool.eq_false_iff]
    intro hocc
    rcases occurs_iff.1 hocc with ⟨before, after, hs⟩
    cases hafter : after.getLast? with
    | none =>
        rw [List.getLast?_eq_none_iff] at hafter
        rw [hafter, List.append_nil] at hs
        have hend := congrArg List.getLast? hs
        rw [List.getLast?_append, List.getLast?_append, List.getLast?_eq_some_getLast hw] at hend
        simp only [List.getLast?_singleton, Option.some_or, Option.some.injEq] at hend
        exact hc (hend ▸ List.getLast_mem hw)
    | some d =>
        rcases List.getLast?_eq_some_iff.1 hafter with ⟨front, hfront⟩
        rw [hfront, ← List.append_assoc] at hs
        have hsplit := List.append_inj_left' hs rfl
        rw [Bool.eq_false_iff] at ha
        exact ha (occurs_iff.2 ⟨before, front, hsplit⟩)
  have hclear : Clear w (a ++ [c]) := clear_of_not_occurs hlast (by simp) hc
  have := hclear.occurs_append b
  rw [List.append_assoc, List.singleton_append] at this
  rw [this, hb]

theorem occurs_append_cons {w : List Char} {c : Char} (hw : w ≠ []) (hc : c ∉ w)
    (a b : List Char) : occurs w (a ++ c :: b) = (occurs w a || occurs w b) := by
  cases hall : occurs w (a ++ c :: b) with
  | true =>
      cases ha : occurs w a with
      | true => rfl
      | false =>
          cases hb : occurs w b with
          | true => rfl
          | false =>
              rw [not_occurs_append_cons hw hc ha hb] at hall
              cases hall
  | false =>
      rw [← List.singleton_append] at hall
      rw [not_occurs_of_append_left hall,
        not_occurs_of_append_right (not_occurs_of_append_right hall)]
      rfl

theorem flatMap_eq_self {f : Char -> List Char} {s : List Char} (h : ∀ c ∈ s, f c = [c]) :
    s.flatMap f = s := by
  induction s with
  | nil => rfl
  | cons c s ih =>
      rw [List.flatMap_cons, h c List.mem_cons_self,
        ih fun d hd => h d (List.mem_cons_of_mem c hd)]
      rfl

/-- A text that is written character by character holds the copies of `w` that it held before,
if each character stays, or is foreign to `w` and turns into something clear of `w` that starts
with a character foreign to it. -/
theorem occurs_flatMap {w : List Char} (hw : w ≠ []) {f : Char -> List Char}
    (hf : forall c, f c ≠ [c] ->
      c ∉ w ∧ Clear w (f c) ∧ exists d rest, f c = d :: rest ∧ d ∉ w) (s : List Char) :
    occurs w (s.flatMap f) = occurs w s := by
  rw [← Rule.apply_sign]
  apply Rule.occurs_apply _ hw
  · rintro old new ⟨c, hc, rfl, rfl⟩
    cases w with
    | nil => exact absurd rfl hw
    | cons d v =>
        have hforeign := (hf c hc).1
        refine ⟨clear_of_notMem ?_, clear_of_notMem hforeign⟩
        rw [List.mem_singleton]
        rintro rfl
        exact hforeign List.mem_cons_self
  · rintro old new ⟨c, hc, rfl, rfl⟩
    rcases hf c hc with ⟨-, hclear, d, rest, heq, hd⟩
    refine ⟨hclear, ?_⟩
    rw [heq]
    exact clear_of_notMem fun hmem => hd (List.mem_of_mem_tail hmem)

/-!
## Positions
-/

/-- The positions at which `part` occurs in a text whose first character stands at
`position`. -/
def occurrencesFrom (part : List Char) (position : Nat) : List Char -> List Nat
  | [] => if part.isEmpty then [position] else []
  | c :: rest =>
      if startsWith part (c :: rest) then
        position :: occurrencesFrom part (position + 1) rest
      else
        occurrencesFrom part (position + 1) rest

/-- The positions at which `part` occurs in a text. -/
def occurrences (part s : List Char) : List Nat :=
  occurrencesFrom part 0 s

theorem occurrencesFrom_of_not_occurs {part s : List Char} (h : occurs part s = false)
    (position : Nat) : occurrencesFrom part position s = [] := by
  induction s generalizing position with
  | nil =>
      simp only [occurs] at h
      simp [occurrencesFrom, h]
  | cons c rest ih =>
      rw [occurs, Bool.or_eq_false_iff] at h
      rw [occurrencesFrom, h.1]
      exact ih h.2 (position + 1)

/-- What is passed over when no occurrence starts in it, whatever follows. -/
theorem occurrencesFrom_append_of_clear {part p : List Char} (h : Clear part p)
    (position : Nat) (s : List Char) :
    occurrencesFrom part position (p ++ s) = occurrencesFrom part (position + p.length) s := by
  induction p generalizing position with
  | nil => rfl
  | cons c p ih =>
      have hstart : startsWith part (c :: (p ++ s)) = false := by
        rw [Bool.eq_false_iff]
        intro hs
        rcases startsWith_iff.1 hs with ⟨rest, hrest⟩
        exact h.not_prefix_append (by simp) s ⟨rest, hrest.symm⟩
      rw [List.cons_append, occurrencesFrom, hstart, List.length_cons]
      have := ih h.2 (position + 1)
      rw [Nat.add_right_comm position 1 p.length, Nat.add_assoc position p.length 1] at this
      exact this

/-- What is passed over when it holds no occurrence, and what follows does not start
inside one. -/
theorem occurrencesFrom_append_append {part before place : List Char}
    (hbefore : occurs part before = false) (hclear : Clear place part.tail)
    (position : Nat) (rest : List Char) :
    occurrencesFrom part position (before ++ (place ++ rest)) =
      occurrencesFrom part (position + before.length) (place ++ rest) := by
  induction before generalizing position with
  | nil => rfl
  | cons c before ih =>
      have hstart : startsWith part (c :: (before ++ (place ++ rest))) = false := by
        rw [Bool.eq_false_iff]
        intro hs
        rcases startsWith_iff.1 hs with ⟨x, hx⟩
        exact not_prefix_append_append hbefore hclear (by simp) rest ⟨x, hx.symm⟩
      rw [occurs, Bool.or_eq_false_iff] at hbefore
      rw [List.cons_append, occurrencesFrom, hstart, List.length_cons]
      have := ih hbefore.2 (position + 1)
      rw [Nat.add_right_comm position 1 before.length,
        Nat.add_assoc position before.length 1] at this
      exact this

/-- An occurrence at the start, inside which no other one starts. -/
theorem occurrencesFrom_self_append {part : List Char} (hne : part ≠ [])
    (hclear : Clear part part.tail) (position : Nat) (s : List Char) :
    occurrencesFrom part position (part ++ s) =
      position :: occurrencesFrom part (position + part.length) s := by
  cases part with
  | nil => exact absurd rfl hne
  | cons c part =>
      have hstart : startsWith (c :: part) (c :: (part ++ s)) = true :=
        startsWith_iff.2 ⟨s, rfl⟩
      have htail := occurrencesFrom_append_of_clear (p := part) hclear (position + 1) s
      rw [Nat.add_right_comm position 1 part.length, Nat.add_assoc position part.length 1] at htail
      rw [List.cons_append, occurrencesFrom, hstart, if_pos rfl, htail, List.length_cons]

end Text
end Folio
