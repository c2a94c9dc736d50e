import Folio.Html.Escape
import Folio.Proofs.Math.Cased
import Folio.Proofs.Text.Occurrence

/-!
# Escaping and tokens

Escaping turns signs into references, and no token holds a sign or stands in a reference, so a
text holds the same tokens before and after, in whatever letter case.
-/

namespace Folio
namespace Math

open Text Html

/-- Whether a sign turns into a reference, which holds no capital letter and no start of a
token. -/
structure IsReference (c : Char) (s : List Char) : Prop where
  isAlphanum : c.isAlphanum = false
  opens : exists rest, s = '&' :: rest
  isUpper : s.any Char.isUpper = false
  clear : Clear ['m', 'd'] (lowered s)

theorem textChar_eq_or (c : Char) : textChar c = [c] ∨ IsReference c (textChar c) := by
  unfold textChar
  split
  · subst c
    exact Or.inr ⟨by decide, ⟨_, rfl⟩, by decide, by decide⟩
  · split
    · subst c
      exact Or.inr ⟨by decide, ⟨_, rfl⟩, by decide, by decide⟩
    · split
      · subst c
        exact Or.inr ⟨by decide, ⟨_, rfl⟩, by decide, by decide⟩
      · exact Or.inl rfl

theorem quotedChar_eq_or (c : Char) :
    Html.quotedChar c = [c] ∨ IsReference c (Html.quotedChar c) := by
  unfold Html.quotedChar
  split
  · subst c
    exact Or.inr ⟨by decide, ⟨_, rfl⟩, by decide, by decide⟩
  · exact textChar_eq_or c

theorem attributeChar_eq_or (c : Char) :
    attributeChar c = [c] ∨ IsReference c (attributeChar c) := by
  unfold attributeChar
  split
  · subst c
    exact Or.inr ⟨by decide, ⟨_, rfl⟩, by decide, by decide⟩
  · exact quotedChar_eq_or c

/-- A text that is written character by character holds the tokens that it held before,
if each character stays or is a sign that turns into a reference. -/
theorem occurs_escaped {w : List Char} {n i : Nat} (hw : SameLetters w (tokenOf (stemOf n) i))
    {f : Char -> List Char} (hf : forall c, f c = [c] ∨ IsReference c (f c)) (s : List Char) :
    occurs w (s.flatMap f) = occurs w s := by
  apply occurs_flatMap (ne_nil_of_sameLetters hw)
  intro c hc
  have href := (hf c).resolve_left hc
  rcases href.opens with ⟨rest, hrest⟩
  exact ⟨notMem_of_sameLetters hw href.isAlphanum, clear_of_clear_start hw href.clear, '&', rest,
    hrest, notMem_of_sameLetters hw (by decide)⟩

theorem occurs_tokenOf_escapeQuoted (n i : Nat) (s : List Char) :
    occurs (tokenOf (stemOf n) i) (escapeQuoted s) = occurs (tokenOf (stemOf n) i) s :=
  occurs_escaped (SameLetters.refl _) quotedChar_eq_or s

end Math
end Folio
