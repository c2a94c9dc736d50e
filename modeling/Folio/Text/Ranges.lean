/-!
# Ranges of code points

A character class is a sorted list of disjoint, inclusive ranges of code points.
Membership walks the list and stops at the first range that starts too late.
-/

namespace Folio
namespace Text

/-- Sorted, disjoint, inclusive ranges of code points. -/
abbrev Ranges := List (Nat × Nat)

/-- Whether a code point lies in one of the ranges. -/
def Ranges.holds : Ranges -> Nat -> Bool
  | [], _ => false
  | (lo, hi) :: rest, n =>
      if n < lo then false else Nat.ble n hi || Ranges.holds rest n

@[simp] theorem Ranges.holds_nil (n : Nat) : Ranges.holds [] n = false := rfl

theorem Ranges.holds_cons (lo hi n : Nat) (rest : Ranges) :
    Ranges.holds ((lo, hi) :: rest) n =
      if n < lo then false else Nat.ble n hi || Ranges.holds rest n := rfl

/-- A code point in the class lies between the ends of one of its ranges. -/
theorem Ranges.exists_of_holds {rs : Ranges} {n : Nat} (h : rs.holds n = true) :
    ∃ r ∈ rs, r.1 ≤ n ∧ n ≤ r.2 := by
  induction rs with
  | nil => simp at h
  | cons r rest ih =>
      obtain ⟨lo, hi⟩ := r
      rw [Ranges.holds_cons] at h
      split at h
      · simp at h
      · rename_i hlo
        cases hle : Nat.ble n hi with
        | true =>
            exact ⟨(lo, hi), by simp, by omega, Nat.le_of_ble_eq_true hle⟩
        | false =>
            rw [hle, Bool.false_or] at h
            obtain ⟨r, hr, hb⟩ := ih h
            exact ⟨r, List.mem_cons_of_mem _ hr, hb⟩

end Text
end Folio
