import Folio.Proofs.Number.Comparison
import Folio.Proofs.Settings.Change

/-!
# The bounds of settings

The check of a number refuses what is too small. What cannot be compared is not too small, so it
is accepted: settings keep their bounds as long as each of their numbers is a number
(`Settings.isValid_iff`).
-/

namespace Folio

open Number Style

variable {α : Type} [Scalar α]

/-! ## Numbers and whole bounds -/

namespace Amount

/-- Whether a number is greater than a whole one. -/
def IsAbove (a : Amount α) (bound : Int) : Prop :=
  a.exact.compare? (whole bound : Amount α).exact = some .gt

/-- Whether a number is greater than a whole one, or equal. -/
def IsAtLeast (a : Amount α) (bound : Int) : Prop :=
  a.IsAbove bound ∨ a.exact.compare? (whole bound : Amount α).exact = some .eq

end Amount

namespace Number

theorem signed_natAbs (i : Int) : signed (decide (i < 0)) i.natAbs = i := by
  unfold signed
  split
  · next h =>
      have hneg := of_decide_eq_true h
      omega
  · next h =>
      have hpos := of_decide_eq_false (eq_false_of_ne_true h)
      omega

/-- A ratio compares as it does in lower terms. -/
theorem Exact.compare?_scaled (x : Exact) (negative : Bool) (num den : Nat) {k : Nat} (hk : 0 < k) :
    x.compare? (.ratio negative (num * k) (den * k)) = x.compare? (.ratio negative num den) := by
  cases x with
  | nan => rfl
  | infinite m => rfl
  | ratio m a b =>
      have hk' : (0 : Int) < k := by exact_mod_cast hk
      simp only [compare?, Option.some.injEq]
      rw [← Nat.mul_assoc, Nat.mul_right_comm num k b, signed_mul _ (a * den),
        signed_mul _ (num * b)]
      exact compare_congr (Int.mul_lt_mul_right hk') (Int.mul_lt_mul_right hk')

/-- Only what is not a number cannot be compared with a ratio. -/
theorem Exact.compare?_ratio_eq_none_iff {x : Exact} {negative : Bool} {num den : Nat} :
    x.compare? (.ratio negative num den) = none ↔ x = .nan := by
  cases x <;> simp [compare?]

end Number

namespace Amount

theorem compare?_whole (i j : Int) :
    (whole i : Amount α).exact.compare? (whole j : Amount α).exact = some (compare i j) := by
  simp only [exact, Exact.compare?, Nat.mul_one, signed_natAbs]

theorem exact_real (x : α) : (real x).exact = Scalar.exact x :=
  rfl

theorem exact_truth (b : Bool) :
    (truth b : Amount α).exact = (whole (if b then 1 else 0) : Amount α).exact := by
  cases b <;> rfl

/-- Whether a whole number compares as the machine number nearest to it. -/
def IsHeldBound (bound : Int) : Prop :=
  forall x : Exact, x.compare? (Scalar.exact (Scalar.ofInt bound : Float)) =
    x.compare? (whole bound : Amount Float).exact

theorem isHeldBound_zero : IsHeldBound 0 := by
  intro x
  have hexact : exists d, Scalar.exact (Scalar.ofInt 0 : Float) = .ratio false 0 d := ⟨_, rfl⟩
  rcases hexact with ⟨d, hexact⟩
  have hscaled := x.compare?_scaled false 0 1 (den_pos hexact)
  rw [Nat.zero_mul, Nat.one_mul] at hscaled
  rw [hexact]
  exact hscaled

theorem isHeldBound_one : IsHeldBound 1 := by
  intro x
  have hexact : Scalar.exact (Scalar.ofInt 1 : Float) = .ratio false (1 * 2 ^ 52) (1 * 2 ^ 52) :=
    rfl
  rw [hexact]
  exact x.compare?_scaled false 1 1 (Nat.two_pow_pos 52)

variable {a : Amount Float} {bound : Int}

theorem isBelow_iff (hbound : IsHeldBound bound) :
    a.isBelow bound = true ↔ a.exact.compare? (whole bound : Amount Float).exact = some .lt := by
  cases a with
  | whole i =>
      rw [compare?_whole, Option.some.injEq, compare_lt_iff_lt]
      exact decide_eq_true_iff
  | real x =>
      rw [exact_real, ← hbound]
      exact lt_iff_exact
  | truth b =>
      rw [exact_truth, compare?_whole, Option.some.injEq, compare_lt_iff_lt]
      exact decide_eq_true_iff

theorem isAtMost_iff (hbound : IsHeldBound bound) :
    a.isAtMost bound = true ↔
      a.exact.compare? (whole bound : Amount Float).exact = some .lt ∨
        a.exact.compare? (whole bound : Amount Float).exact = some .eq := by
  have hwhole : forall i : Int, i ≤ bound ↔
      some (compare i bound) = some .lt ∨ some (compare i bound) = some .eq := by
    intro i
    rw [Option.some.injEq, Option.some.injEq, compare_lt_iff_lt, compare_eq_iff_eq]
    exact le_iff_lt_or_eq
  cases a with
  | whole i =>
      rw [compare?_whole, ← hwhole]
      exact decide_eq_true_iff
  | real x =>
      rw [exact_real, ← hbound]
      exact le_iff_exact
  | truth b =>
      rw [exact_truth, compare?_whole, ← hwhole]
      exact decide_eq_true_iff

theorem compare?_whole_eq_none_iff :
    a.exact.compare? (whole bound : Amount Float).exact = none ↔ a.exact = .nan :=
  Exact.compare?_ratio_eq_none_iff

/-- A number that is not too small for a strict bound is above it, unless it is no number. -/
theorem isAtMost_eq_false_iff (hbound : IsHeldBound bound) :
    a.isAtMost bound = false ↔ a.IsAbove bound ∨ a.exact = .nan := by
  rw [← Bool.not_eq_true, isAtMost_iff hbound, ← compare?_whole_eq_none_iff, IsAbove]
  cases a.exact.compare? (whole bound : Amount Float).exact with
  | none => simp
  | some o => cases o <;> simp

theorem isBelow_eq_false_iff (hbound : IsHeldBound bound) :
    a.isBelow bound = false ↔ a.IsAtLeast bound ∨ a.exact = .nan := by
  rw [← Bool.not_eq_true, isBelow_iff hbound, ← compare?_whole_eq_none_iff, IsAtLeast, IsAbove]
  cases a.exact.compare? (whole bound : Amount Float).exact with
  | none => simp
  | some o => cases o <;> simp

/-- What is not a number is within no bound. -/
theorem IsAtLeast.ne_nan (h : a.IsAtLeast bound) : a.exact ≠ .nan := by
  intro hnan
  rw [IsAtLeast, IsAbove, hnan] at h
  rcases h with h | h <;> cases h

theorem IsAbove.ne_nan (h : a.IsAbove bound) : a.exact ≠ .nan :=
  IsAtLeast.ne_nan (Or.inl h)

theorem exists_toValue_iff {p : Amount Float -> Prop} :
    (exists b : Amount Float, a.toValue = b.toValue ∧ p b) ↔ p a := by
  constructor
  · rintro ⟨b, hb, hp⟩
    exact toValue_inj hb ▸ hp
  · intro hp
    exact ⟨a, rfl, hp⟩

end Amount

/-! ## Settings within their bounds -/

namespace Settings

/-- Whether each of the settings is within its bounds. -/
structure IsValid (s : Settings α) : Prop where
  fontSize : s.fontSize.IsAbove 0
  lineHeight : s.lineHeight.IsAbove 0
  margins : s.margins.IsAtLeast 0
  columns : ∀ a ∈ s.columns, a.IsAtLeast 1
  direction : s.direction.name ∈ ["ltr".toList, "rtl".toList]
  theme : s.theme ∈ Theme.all
  compression : s.compression ∈ Compression.all

/-- The numbers among the settings. -/
def numbers (s : Settings α) : List (Amount α) :=
  [s.fontSize, s.lineHeight, s.margins] ++ s.columns.toList

/-- Accepted settings are within their bounds if each of their numbers is one; and only then,
as what is not a number is accepted too. -/
theorem isValid_iff {s : Settings Float} (h : s.IsReached) :
    s.IsValid ↔ ∀ a ∈ s.numbers, a.exact ≠ .nan := by
  have hfont : s.fontSize.IsAbove 0 ∨ s.fontSize.exact = .nan :=
    (Amount.isAtMost_eq_false_iff Amount.isHeldBound_zero).1
      (Amount.exists_toValue_iff.1 (h.takes .fontSize))
  have hline : s.lineHeight.IsAbove 0 ∨ s.lineHeight.exact = .nan :=
    (Amount.isAtMost_eq_false_iff Amount.isHeldBound_zero).1
      (Amount.exists_toValue_iff.1 (h.takes .lineHeight))
  have hmargins : s.margins.IsAtLeast 0 ∨ s.margins.exact = .nan :=
    (Amount.isBelow_eq_false_iff Amount.isHeldBound_zero).1
      (Amount.exists_toValue_iff.1 (h.takes .margins))
  have hcolumns : ∀ a ∈ s.columns, a.IsAtLeast 1 ∨ a.exact = .nan := by
    intro a ha
    have hvalue : s.value .columns = a.toValue := by
      rw [value, Draft.ofSettings, Option.mem_def.1 ha]
      rfl
    have htakes := h.takes .columns
    rw [hvalue] at htakes
    rcases htakes with hnull | htakes
    · cases a <;> cases hnull
    · exact (Amount.isBelow_eq_false_iff Amount.isHeldBound_one).1
        (Amount.exists_toValue_iff.1 htakes)
  constructor
  · intro hvalid
    simp only [numbers, List.forall_mem_append, List.forall_mem_cons, List.not_mem_nil,
      false_implies, implies_true, and_true, Option.mem_toList]
    exact ⟨⟨hvalid.fontSize.ne_nan, hvalid.lineHeight.ne_nan, hvalid.margins.ne_nan⟩,
      fun a ha => (hvalid.columns a ha).ne_nan⟩
  · intro hnumbers
    simp only [numbers, List.forall_mem_append, List.forall_mem_cons, List.not_mem_nil,
      false_implies, implies_true, and_true, Option.mem_toList] at hnumbers
    rcases hnumbers with ⟨⟨kfont, kline, kmargins⟩, kcolumns⟩
    exact
      { fontSize := hfont.resolve_right kfont
        lineHeight := hline.resolve_right kline
        margins := hmargins.resolve_right kmargins
        columns := fun a ha => (hcolumns a ha).resolve_right (kcolumns a ha)
        direction := by cases s.direction <;> decide
        theme := Theme.mem_all s.theme
        compression := by cases s.compression <;> decide }

/-- An infinite font size is within its bound; a line height that is no number, set after it, is
not. -/
theorem isValid_iff_of_infinite_font :
    exists s t : Settings Float,
      make [("font_size".toList, .real (Scalar.infinity false))] = .ok s ∧ s.IsValid ∧
        s.change [("line_height".toList, .real Scalar.nan)] = .ok t ∧ ¬ t.IsValid := by
  let s : Settings Float := { default with fontSize := .real (Scalar.infinity false) }
  let t : Settings Float := { s with lineHeight := .real Scalar.nan }
  have hs : make [("font_size".toList, .real (Scalar.infinity false))] = .ok s := rfl
  have ht : s.change [("line_height".toList, .real Scalar.nan)] = .ok t := rfl
  have hreached : s.IsReached := .make hs
  refine ⟨s, t, hs, ?_, ht, ?_⟩
  · rw [isValid_iff hreached]
    decide
  · rw [isValid_iff (hreached.change ht)]
    decide

/-- A font size that is not a number is accepted. -/
theorem exists_make_not_isValid :
    exists s : Settings Float,
      make [("font_size".toList, .real Scalar.nan)] = .ok s ∧ ¬ s.IsValid := by
  refine ⟨{ default with fontSize := .real Scalar.nan }, rfl, ?_⟩
  intro hvalid
  exact hvalid.fontSize.ne_nan rfl

end Settings
end Folio
