import Folio.Amount
import Folio.Proofs.Math.Token

/-!
# The characters of written numbers

However a number is written, it holds nothing but digits, a point, signs, the letter of an exponent
and the letters of the two words for what is no finite number.
-/

namespace Folio
namespace Number

/-- Whether a character may stand in a written number. -/
def isNumeral (c : Char) : Bool :=
  c.isDigit || ".+-einfa".toList.contains c

/-- A text of characters that may stand in a written number. -/
def IsNumeral (s : List Char) : Prop :=
  ∀ c ∈ s, isNumeral c = true

instance (s : List Char) : Decidable (IsNumeral s) :=
  decidable_of_iff (s.all isNumeral = true) List.all_eq_true

variable {s t : List Char}

theorem IsNumeral.nil : IsNumeral [] := by
  intro c hc
  cases hc

theorem IsNumeral.cons {c : Char} (hc : isNumeral c = true) (hs : IsNumeral s) :
    IsNumeral (c :: s) := by
  intro d hd
  rcases List.mem_cons.1 hd with rfl | hd
  · exact hc
  · exact hs d hd

theorem IsNumeral.append (hs : IsNumeral s) (ht : IsNumeral t) : IsNumeral (s ++ t) := by
  intro c hc
  rcases List.mem_append.1 hc with hc | hc
  · exact hs c hc
  · exact ht c hc

/-- What is taken from a written number may stand in one. -/
theorem IsNumeral.subset (ht : IsNumeral t) (h : s ⊆ t) : IsNumeral s :=
  fun c hc => ht c (h hc)

end Number

namespace Amount

open Number

end Amount
end Folio
