import Folio.Proofs.Math.Substitution

/-!
# Putting math back around a tag

A tag that belongs to no paragraph and holds no token stands between two texts. Math is put
back in each of them, and the tag stays as it is (`Solid.restoreWith`), whatever the markup
of the segments is. In front of a text, characters that start no place of a token stay as
they are as well (`restoreWith_append_of_notMem`).
-/

namespace Folio
namespace Math

open Text

/-- Whether a text is a tag that no place of a token touches. -/
structure Solid (t : List Char) : Prop where
  opens : exists w, t = '<' :: w ∧ ¬ Meets ['/', 'p', '>'] w
  closes : exists front c, t = front ++ [c, '>'] ∧ c ≠ 'p'
  free : forall n i, occurs (tokenOf (stemOf n) i) t = false

theorem Solid.seam_front {t : List Char} (h : Solid t) (n : Nat) (x y : List Char) :
    Seam n x (t ++ y) := by
  rcases h.opens with ⟨w, rfl, hw⟩
  apply seam_of_opens
  intro hmeets
  exact hw hmeets.of_append_right

theorem Solid.seam_back {t : List Char} (h : Solid t) (n : Nat) (y : List Char) :
    Seam n t y := by
  rcases h.closes with ⟨front, c, rfl, hc⟩
  exact seam_of_closes hc front y

/-- The pass of a rule whose places are places of tokens leaves a solid tag as it is. -/
theorem Solid.apply {t : List Char} (h : Solid t) {n : Nat} {r : Rule}
    (hr : forall old new, r.Turns old new -> exists i, IsPlace (tokenOf (stemOf n) i) old)
    (x y : List Char) : r.apply (x ++ (t ++ y)) = r.apply x ++ (t ++ r.apply y) := by
  have hfront : r.Parts x (t ++ y) := by
    intro old new hturns
    rcases hr old new hturns with ⟨i, hplace⟩
    exact h.seam_front n x y i old hplace
  have hback : r.Parts t y := by
    intro old new hturns
    rcases hr old new hturns with ⟨i, hplace⟩
    exact h.seam_back n y i old hplace
  have hself : r.apply t = t := by
    apply r.apply_of_not_occurs
    intro old new hturns
    rcases hr old new hturns with ⟨i, hplace⟩
    exact hplace.not_occurs (h.free n i)
  rw [r.apply_append hfront, r.apply_append hback, hself]

theorem Solid.foldl_apply {t : List Char} (h : Solid t) {n : Nat} {rules : List Rule}
    (hrules : ∀ r ∈ rules, forall old new, r.Turns old new ->
      exists i, IsPlace (tokenOf (stemOf n) i) old) (x y : List Char) :
    rules.foldl (fun s r => r.apply s) (x ++ (t ++ y)) =
      rules.foldl (fun s r => r.apply s) x ++ (t ++ rules.foldl (fun s r => r.apply s) y) := by
  induction rules generalizing x y with
  | nil => rfl
  | cons r rules ih =>
      rw [List.foldl_cons, h.apply (hrules r List.mem_cons_self)]
      exact ih (fun r' hr' => hrules r' (List.mem_cons_of_mem r hr')) _ _

theorem Solid.putBack {t : List Char} (h : Solid t) {n : Nat} {segment : Segment}
    (hsegment : segment.Numbered n) (markup x y : List Char) :
    putBack markup (x ++ (t ++ y)) segment =
      putBack markup x segment ++ (t ++ putBack markup y segment) := by
  have hpasses := @putBack_eq_foldl n (fun _ => markup) segment hsegment
  rw [hpasses, hpasses, hpasses]
  apply h.foldl_apply
  intro r hr old new hturns
  rcases hsegment with ⟨i, hi⟩
  exact ⟨i, hi ▸ (isPlace_of_mem_rules hr hturns).1⟩

/-- Math is put back around a solid tag as it is in the texts on both sides. -/
theorem Solid.restoreWith {t : List Char} (h : Solid t) {n : Nat} {segments : List Segment}
    (hsegments : ∀ s ∈ segments, s.Numbered n) (answer : Segment -> Outcome) (x y : List Char) :
    restoreWith answer segments (x ++ (t ++ y)) =
      restoreWith answer segments x ++ (t ++ restoreWith answer segments y) := by
  induction segments generalizing x y with
  | nil => rfl
  | cons s segments ih =>
      simp only [Math.restoreWith, List.foldl_cons] at ih ⊢
      rw [h.putBack (hsegments s List.mem_cons_self)]
      exact ih (fun s' hs' => hsegments s' (List.mem_cons_of_mem s hs')) _ _

/-!
## Characters that start no place
-/

/-- A place starts with the first letter of its token or with an opening angle. -/
theorem clear_place_of_notMem {n i : Nat} {place s : List Char}
    (hplace : IsPlace (tokenOf (stemOf n) i) place) (hM : 'M' ∉ s) (hopen : '<' ∉ s) :
    Clear place s := by
  rcases hplace with rfl | ⟨before, after, -, -, rfl⟩
  · exact clear_of_notMem (w := (tokenOf (stemOf n) i).tail) hM
  · exact clear_of_notMem hopen

theorem foldl_apply_append_of_clear {rules : List Rule} {s : List Char}
    (h : ∀ r ∈ rules, forall old new, r.Turns old new -> Clear old s) (y : List Char) :
    rules.foldl (fun s r => r.apply s) (s ++ y) = s ++ rules.foldl (fun s r => r.apply s) y := by
  induction rules generalizing y with
  | nil => rfl
  | cons r rules ih =>
      rw [List.foldl_cons, r.apply_append_of_clear (h r List.mem_cons_self)]
      exact ih (fun r' hr' => h r' (List.mem_cons_of_mem r hr')) _

theorem foldl_apply_nil (rules : List Rule) : rules.foldl (fun s r => r.apply s) [] = [] := by
  induction rules with
  | nil => rfl
  | cons r rules ih => exact ih

theorem putBack_append_of_notMem {n : Nat} {segment : Segment} (hsegment : segment.Numbered n)
    {s : List Char} (hM : 'M' ∉ s) (hopen : '<' ∉ s) (markup y : List Char) :
    putBack markup (s ++ y) segment = s ++ putBack markup y segment := by
  have hpasses := @putBack_eq_foldl n (fun _ => markup) segment hsegment
  rw [hpasses, hpasses]
  apply foldl_apply_append_of_clear
  intro r hr old new hturns
  rcases hsegment with ⟨i, hi⟩
  exact clear_place_of_notMem (hi ▸ (isPlace_of_mem_rules hr hturns).1) hM hopen

/-- Math is put back behind characters that start no place of a token. -/
theorem restoreWith_append_of_notMem {n : Nat} {segments : List Segment}
    (hsegments : ∀ s ∈ segments, s.Numbered n) (answer : Segment -> Outcome) {s : List Char}
    (hM : 'M' ∉ s) (hopen : '<' ∉ s) (y : List Char) :
    restoreWith answer segments (s ++ y) = s ++ restoreWith answer segments y := by
  induction segments generalizing y with
  | nil => rfl
  | cons segment segments ih =>
      simp only [Math.restoreWith, List.foldl_cons] at ih ⊢
      rw [putBack_append_of_notMem (hsegments segment List.mem_cons_self) hM hopen]
      exact ih (fun t ht => hsegments t (List.mem_cons_of_mem segment ht)) _

theorem restoreWith_nil {n : Nat} {segments : List Segment}
    (hsegments : ∀ s ∈ segments, s.Numbered n) (answer : Segment -> Outcome) :
    restoreWith answer segments [] = [] := by
  induction segments with
  | nil => rfl
  | cons segment segments ih =>
      have hempty : putBack (segment.markupFor (answer segment)) [] segment = [] := by
        rw [@putBack_eq_foldl n (fun _ => segment.markupFor (answer segment)) segment
          (hsegments segment List.mem_cons_self)]
        exact foldl_apply_nil _
      rw [Math.restoreWith, List.foldl_cons, hempty]
      exact ih fun t ht => hsegments t (List.mem_cons_of_mem segment ht)

end Math
end Folio
