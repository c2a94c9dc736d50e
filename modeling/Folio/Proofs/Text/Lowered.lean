import Folio.Proofs.Text.Rewriting
import Mathlib.Data.List.Infix

/-!
# Texts in any letter case

The letters from A to Z are compared without their case. A text stands in another one in some
letter case exactly when a text of the same letters stands in it as it is (`occursAnyCase_iff`),
and it keeps its case there when no other text of the same letters does (`keepsCase_iff`).
-/

namespace Folio
namespace Text

/-!
## Letters
-/

theorem isUpper_eq_false {c : Char} (h : c.toNat < 65 ∨ 90 < c.toNat) : c.isUpper = false := by
  rw [Bool.eq_false_iff]
  intro hupper
  have hbounds : 'A'.val ≤ c.val ∧ c.val ≤ 'Z'.val := of_decide_eq_true hupper
  have hlow : 65 ≤ c.toNat := UInt32.le_iff_toNat_le.1 hbounds.1
  have hhigh : c.toNat ≤ 90 := UInt32.le_iff_toNat_le.1 hbounds.2
  omega

theorem isUpper_of_isDigit {c : Char} (h : c.isDigit = true) : c.isUpper = false :=
  isUpper_eq_false (Or.inl (Nat.lt_of_le_of_lt (Char.isDigit_iff_toNat.1 h).2 (by decide)))

theorem isUpper_of_isAlphanum {c : Char} (h : c.isAlphanum = false) : c.isUpper = false := by
  have hletters : ((c.isUpper || c.isLower) || c.isDigit) = false := h
  rw [Bool.or_eq_false_iff, Bool.or_eq_false_iff] at hletters
  exact hletters.1.1

theorem toLower_eq_self {c : Char} (h : c.isUpper = false) : c.toLower = c := by
  unfold Char.toLower
  split
  next hupper => exact absurd (decide_eq_true hupper) (Bool.eq_false_iff.1 h)
  · rfl

/-- Only the capital and the small letter are lowered to the small one. -/
theorem eq_or_eq_of_toLower_eq {c : Char} (h : c.toLower = 'm') : c = 'm' ∨ c = 'M' := by
  unfold Char.toLower at h
  split at h
  · right
    have hback : c.val + 32 - 32 = 'm'.val - 32 := congrArg (· - 32) (congrArg Char.val h)
    rw [UInt32.add_sub_cancel] at hback
    exact Char.ext hback
  · exact Or.inl h

/-!
## Texts
-/

/-- A text with small letters for those from A to Z. -/
def lowered (s : List Char) : List Char :=
  s.map Char.toLower

/-- Whether two texts are the same up to the case of their letters. -/
def SameLetters (s t : List Char) : Prop :=
  lowered s = lowered t

/-- Whether `part` occurs somewhere in a text, in whatever letter case. -/
def occursAnyCase (part s : List Char) : Bool :=
  occurs (lowered part) (lowered s)

/-- Whether `part` stands with its own case wherever a text of the same letters stands. -/
def KeepsCase (part s : List Char) : Prop :=
  ∀ rest ∈ s.tails, startsWith (lowered part) (lowered rest) = true → startsWith part rest = true

instance (part s : List Char) : Decidable (KeepsCase part s) :=
  inferInstanceAs (Decidable (∀ rest ∈ s.tails,
    startsWith (lowered part) (lowered rest) = true → startsWith part rest = true))

theorem lowered_append (s t : List Char) : lowered (s ++ t) = lowered s ++ lowered t :=
  List.map_append

theorem mem_lowered {c : Char} {s : List Char} (hc : c.isUpper = false) (h : c ∈ s) :
    c ∈ lowered s :=
  toLower_eq_self hc ▸ List.mem_map_of_mem h

theorem SameLetters.refl (s : List Char) : SameLetters s s := rfl

theorem SameLetters.length_eq {s t : List Char} (h : SameLetters s t) : s.length = t.length := by
  have := congrArg List.length h
  rwa [lowered, lowered, List.length_map, List.length_map] at this

/-!
## Copies in some case
-/

/-- A text starts with `part` in some case exactly when it starts with a text of the same
letters. -/
theorem startsWith_lowered_iff {part s : List Char} :
    startsWith (lowered part) (lowered s) = true ↔ ∃ w, SameLetters w part ∧ w <+: s := by
  rw [startsWith_iff]
  constructor
  · rintro ⟨rest, h⟩
    rcases List.map_eq_append_iff.1 h with ⟨w, tail, hs, hw, -⟩
    exact ⟨w, hw, tail, hs.symm⟩
  · rintro ⟨w, hw, tail, rfl⟩
    exact ⟨lowered tail, by rw [lowered_append, hw]⟩

theorem occursAnyCase_iff {part s : List Char} :
    occursAnyCase part s = true ↔ ∃ w, SameLetters w part ∧ occurs w s = true := by
  rw [occursAnyCase, occurs_iff]
  constructor
  · rintro ⟨before, after, h⟩
    rcases List.map_eq_append_iff.1 h with ⟨front, back, hs, hfront, -⟩
    rcases List.map_eq_append_iff.1 hfront with ⟨start, w, hsplit, -, hw⟩
    exact ⟨w, hw, occurs_iff.2 ⟨start, back, by rw [hs, hsplit]⟩⟩
  · rintro ⟨w, hw, hocc⟩
    rcases occurs_iff.1 hocc with ⟨before, after, rfl⟩
    exact ⟨lowered before, lowered after, by rw [lowered_append, lowered_append, hw]⟩

theorem not_occursAnyCase_iff {part s : List Char} :
    occursAnyCase part s = false ↔ ∀ w, SameLetters w part → occurs w s = false := by
  rw [← Bool.not_eq_true, occursAnyCase_iff]
  simp only [not_exists, not_and, Bool.not_eq_true]

theorem keepsCase_iff {part s : List Char} :
    KeepsCase part s ↔ ∀ w, SameLetters w part → occurs w s = true → w = part := by
  constructor
  · intro h w hw hocc
    rcases occurs_iff.1 hocc with ⟨before, after, hs⟩
    have hmem : w ++ after ∈ s.tails := by
      rw [List.mem_tails, hs, List.append_assoc]
      exact List.suffix_append before (w ++ after)
    have hstart := h _ hmem (startsWith_lowered_iff.2 ⟨w, hw, List.prefix_append w after⟩)
    rcases startsWith_iff.1 hstart with ⟨rest, hrest⟩
    exact (List.append_inj hrest hw.length_eq).1
  · intro h rest hmem hstart
    rw [List.mem_tails] at hmem
    rcases hmem with ⟨before, hs⟩
    rcases startsWith_lowered_iff.1 hstart with ⟨w, hw, after, hrest⟩
    have hpart := h w hw (occurs_iff.2 ⟨before, after, by rw [← hs, ← hrest, List.append_assoc]⟩)
    exact startsWith_iff.2 ⟨after, by rw [← hrest, hpart]⟩

/-- A text that holds no copy of the start of `part` in any case holds none of `part`. -/
theorem not_occursAnyCase_append {part more s : List Char} (h : occursAnyCase part s = false) :
    occursAnyCase (part ++ more) s = false := by
  unfold occursAnyCase at h ⊢
  rw [Bool.eq_false_iff] at h ⊢
  intro hocc
  rcases occurs_iff.1 hocc with ⟨before, after, hs⟩
  refine h (occurs_iff.2 ⟨before, lowered more ++ after, ?_⟩)
  rw [hs, lowered_append]
  simp only [List.append_assoc]

/-!
## What is clear of a text in any case
-/

theorem Meets.lowered {a b : List Char} (h : Meets a b) : Meets (lowered a) (lowered b) :=
  h.imp (fun h => h.map Char.toLower) (fun h => h.map Char.toLower)

/-- What is clear of a start of `w` once the case is forgotten is clear of `w`. -/
theorem clear_of_clear_lowered {start w s : List Char} (hstart : start <+: lowered w)
    (h : Clear start (lowered s)) : Clear w s := by
  induction s with
  | nil => trivial
  | cons c rest ih =>
      refine ⟨?_, ih h.2⟩
      intro hm
      rcases hstart with ⟨more, hmore⟩
      have hlowered := hm.lowered
      rw [← hmore] at hlowered
      exact h.1 hlowered.of_append_right

end Text
end Folio
