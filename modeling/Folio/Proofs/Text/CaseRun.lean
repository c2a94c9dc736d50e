import Folio.Text.Case
import Mathlib.Data.List.Basic

/-!
# Letters in runs

Most letters are lowered by a fixed distance within a run. So a code point is moved by one of
the runs, or it stays where it is (`mapCase_cases`), and what a lowered text holds comes from
one of its characters (`mem_lowerFrom`).
-/

namespace Folio
namespace Text

/-!
## Runs
-/

theorem CaseRun.target?_eq_some_iff {run : CaseRun} {n m : Nat} :
    run.target? n = some m ↔
      (run.first ≤ n ∧ n ≤ run.last ∧ (n - run.first) % run.step = 0) ∧
        Int.toNat (n + run.offset) = m := by
  unfold CaseRun.target?
  split
  next h =>
    constructor
    · intro hm
      exact ⟨h, Option.some.inj hm⟩
    · intro hm
      exact congrArg some hm.2
  next h =>
    constructor
    · intro hm
      cases hm
    · intro hm
      exact absurd hm.1 h

/-- A code point is moved by a run, or it stays where it is. -/
theorem mapCase_cases (runs : List CaseRun) (n : Nat) :
    ((∀ run ∈ runs, run.target? n = none) ∧ mapCase runs n = n) ∨
      ∃ run ∈ runs, run.target? n = some (mapCase runs n) := by
  unfold mapCase
  cases hrun : runs.findSome? fun run => run.target? n with
  | none => exact Or.inl ⟨List.findSome?_eq_none_iff.1 hrun, rfl⟩
  | some m => exact Or.inr (List.exists_of_findSome?_eq_some hrun)

theorem mapCase_eq_self {runs : List CaseRun} {n : Nat}
    (h : ∀ run ∈ runs, run.target? n = none) : mapCase runs n = n := by
  rw [mapCase, List.findSome?_eq_none_iff.2 h]
  rfl

/-!
## The runs of capital letters
-/

/-- What a check of all members of a list says about each of them. -/
theorem forall_mem_of_all {α : Type} {l : List α} {P : α -> Prop} [DecidablePred P]
    (h : (l.all fun a => decide (P a)) = true) : ∀ a ∈ l, P a := by
  simpa only [List.all_eq_true, decide_eq_true_eq] using h

theorem lowerRuns_to_characters : ∀ run ∈ lowerRuns, 0 ≤ run.first + run.offset ∧
    (run.last + run.offset < 0xD800 ∨
      0xDFFF < run.first + run.offset ∧ run.last + run.offset < 0x110000) :=
  forall_mem_of_all (by decide)

theorem toNat_lowered (c : Char) :
    (Char.ofNat (mapCase lowerRuns c.toNat)).toNat = mapCase lowerRuns c.toNat := by
  rcases mapCase_cases lowerRuns c.toNat with ⟨-, hstays⟩ | ⟨run, hrun, htarget⟩
  · rw [hstays, Char.ofNat_toNat]
  · have hcharacters := (lowerRuns_to_characters run hrun).2
    rcases CaseRun.target?_eq_some_iff.1 htarget with ⟨⟨hfirst, hlast, -⟩, hvalue⟩
    have hvalid : (mapCase lowerRuns c.toNat).isValidChar := by
      unfold Nat.isValidChar
      omega
    rw [Char.ofNat, dif_pos hvalid]
    rfl

/-!
## Texts
-/

/-- What a lowered text holds: what its characters are lowered to, and final sigmas. -/
theorem mem_lowerFrom {before s : List Char} {d : Char} (h : d ∈ lowerFrom before s) :
    ∃ c ∈ s, d ∈ lowerChar c ∨ c.toNat = 0x3A3 ∧ d = Char.ofNat 0x3C2 := by
  induction s generalizing before with
  | nil => cases h
  | cons c rest ih =>
      rcases List.mem_append.1 h with hfirst | hrest
      · refine ⟨c, List.mem_cons_self, ?_⟩
        split at hfirst
        next hfinal => exact Or.inr ⟨hfinal.1, List.mem_singleton.1 hfirst⟩
        · exact Or.inl hfirst
      · rcases ih hrest with ⟨b, hb, hd⟩
        exact ⟨b, List.mem_cons_of_mem c hb, hd⟩

/-- A lowered text holds what each of its characters but the sigma is lowered to. -/
theorem mem_lowerFrom_of_mem {before s : List Char} {c d : Char} (hc : c ∈ s)
    (hsigma : c.toNat ≠ 0x3A3) (hd : d ∈ lowerChar c) : d ∈ lowerFrom before s := by
  induction s generalizing before with
  | nil => cases hc
  | cons b rest ih =>
      apply List.mem_append.2
      rcases List.mem_cons.1 hc with rfl | hc
      · left
        rw [if_neg fun h => hsigma h.1]
        exact hd
      · right
        exact ih hc

end Text
end Folio
