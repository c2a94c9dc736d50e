import Folio.Files.Machine
import Folio.Proofs.Text.Cut

/-!
# Names and paths

The names in a path that was read take a step and hold no slash. A place of such names that leads
down only is written as a path and read back as itself. Going back never makes a path longer, so
that a shorter text cannot lead to the same place.
-/

namespace Folio
namespace Files

open Text

/-- A name as a path that was read has it. -/
structure IsName (name : List Char) : Prop where
  step : isStep name = true
  slash : '/' ∉ name

/-- A name as a file or a folder has it: it does not lead back, and the system can be asked
about it. -/
structure IsEntry (name : List Char) : Prop extends IsName name where
  back : name ≠ "..".toList
  null : '\x00' ∉ name

/-!
## Reading
-/

theorem isName_of_mem_steps {s name : List Char} (h : name ∈ steps s) : IsName name := by
  rcases List.mem_filter.1 h with ⟨hname, hstep⟩
  exact ⟨hstep, fun hslash => (mem_of_mem_splitOn hname '/' hslash).2 rfl⟩

theorem mem_of_mem_steps {s name : List Char} (h : name ∈ steps s) {c : Char} (hc : c ∈ name) :
    c ∈ s :=
  (mem_of_mem_splitOn (List.mem_filter.1 h).1 c hc).1

theorem isName_of_mem_ofText {s name : List Char} (h : name ∈ (Path.ofText s).names) :
    IsName name :=
  isName_of_mem_steps h

/-- The names of a path with a home in it are those of the home and those of the path. -/
theorem isName_of_expandWith {homeOf : List Char -> Except FileFault (List Char)} {p q : Path}
    (hp : ∀ name ∈ p.names, IsName name) (h : expandWith homeOf p = .ok q) :
    ∀ name ∈ q.names, IsName name := by
  unfold expandWith at h
  split at h
  next user rest hroot hnames =>
    cases hhome : homeOf user with
    | error f =>
        rw [hhome] at h
        cases h
    | ok home =>
        rw [hhome] at h
        cases h
        intro name hname
        rcases List.mem_append.1 hname with hname | hname
        · exact isName_of_mem_ofText hname
        · exact hp name (hnames ▸ List.mem_cons_of_mem _ hname)
  next =>
    cases h
    exact hp

theorem root_ofText_ne_relative (s : List Char) : Root.ofText ('/' :: s) ≠ .relative := by
  unfold Root.ofText
  split
  · exact Root.noConfusion
  · exact Root.noConfusion
  · exact Root.noConfusion
  next _ _ hnone => exact absurd rfl (hnone s)

theorem steps_cons (s : List Char) : steps ('/' :: s) = steps s := by
  rw [steps, splitOn, if_pos rfl]
  rfl

/-!
## Writing
-/

theorem text_ofNames (place : Place) : (Path.ofNames place).text = '/' :: joinWith ['/'] place := by
  cases place <;> rfl

theorem mem_joinWith {sep : List Char} {parts : List (List Char)} {c : Char}
    (h : c ∈ joinWith sep parts) : c ∈ sep ∨ ∃ part ∈ parts, c ∈ part := by
  induction parts with
  | nil => cases h
  | cons part others ih =>
      by_cases hothers : others = []
      · rw [hothers] at h
        exact .inr ⟨part, List.mem_cons_self, h⟩
      · rw [joinWith_cons hothers, List.mem_append, List.mem_append] at h
        rcases h with (hpart | hsep) | hrest
        · exact .inr ⟨part, List.mem_cons_self, hpart⟩
        · exact .inl hsep
        · rcases ih hrest with hsep | ⟨other, hother, hc⟩
          · exact .inl hsep
          · exact .inr ⟨other, List.mem_cons_of_mem part hother, hc⟩

theorem mem_joinWith_of_mem {sep part : List Char} {parts : List (List Char)} {c : Char}
    (hpart : part ∈ parts) (hc : c ∈ part) : c ∈ joinWith sep parts := by
  induction parts with
  | nil => cases hpart
  | cons first others ih =>
      by_cases hothers : others = []
      · rw [hothers, List.mem_singleton] at hpart
        rw [hothers, joinWith, ← hpart]
        exact hc
      · rw [joinWith_cons hothers, List.mem_append, List.mem_append]
        rcases List.mem_cons.1 hpart with rfl | hpart
        · exact .inl (.inl hc)
        · exact .inr (ih hpart)

theorem mem_text_of_mem_names {p : Path} {name : List Char} {c : Char} (hname : name ∈ p.names)
    (hc : c ∈ name) : c ∈ p.text := by
  rcases p with ⟨root, names⟩
  have hjoin : c ∈ joinWith ['/'] names := mem_joinWith_of_mem hname hc
  unfold Path.text
  split
  next hnames =>
    rw [show names = [] from hnames] at hname
    cases hname
  next => exact List.mem_append_right _ hjoin

theorem mem_text_ofNames {place : Place} {c : Char} (h : c ∈ (Path.ofNames place).text) :
    c = '/' ∨ ∃ name ∈ place, c ∈ name := by
  rw [text_ofNames, List.mem_cons] at h
  rcases h with rfl | h
  · exact .inl rfl
  · rcases mem_joinWith h with hslash | hname
    · exact .inl (List.mem_singleton.1 hslash)
    · exact .inr hname

theorem filter_isStep {place : Place} (h : ∀ name ∈ place, IsName name) :
    place.filter isStep = place :=
  List.filter_eq_self.2 fun name hname => (h name hname).step

theorem steps_joinWith {place : Place} (h : ∀ name ∈ place, IsName name) :
    steps (joinWith ['/'] place) = place := by
  by_cases hplace : place = []
  · rw [hplace]
    rfl
  · rw [steps, splitOn_joinWith hplace fun name hname => (h name hname).slash, filter_isStep h]

theorem root_ofText_ofNames {place : Place} (h : ∀ name ∈ place, IsName name) :
    Root.ofText (Path.ofNames place).text = .absolute := by
  rw [text_ofNames]
  cases place with
  | nil => rfl
  | cons name more =>
      have hname := h name List.mem_cons_self
      cases name with
      | nil => cases hname.step
      | cons c rest =>
          have hc : c ≠ '/' := fun hc => hname.slash (hc ▸ List.mem_cons_self)
          have hjoin : ∃ t, joinWith ['/'] ((c :: rest) :: more) = c :: t := by
            cases more with
            | nil => exact ⟨rest, rfl⟩
            | cons next others => exact ⟨_, rfl⟩
          rcases hjoin with ⟨t, ht⟩
          rw [ht]
          unfold Root.ofText
          split
          · rfl
          next heq => injection heq with _ heq; injection heq with heq; exact absurd heq hc
          · rfl
          next hnone => exact absurd rfl (hnone (c :: t))

/-- The path of a place is read back from its text. -/
theorem ofText_ofNames {place : Place} (h : ∀ name ∈ place, IsName name) :
    Path.ofText (Path.ofNames place).text = Path.ofNames place := by
  rw [Path.ofText, root_ofText_ofNames h, text_ofNames, steps_cons, steps_joinWith h]
  rfl

/-!
## Stepping
-/

theorem foldl_step_of_isEntry {names : List (List Char)} (h : ∀ name ∈ names, IsEntry name)
    (start : Place) : names.foldl Machine.step start = start ++ names := by
  induction names generalizing start with
  | nil => rw [List.foldl_nil, List.append_nil]
  | cons name rest ih =>
      have hback := (h name List.mem_cons_self).back
      rw [List.foldl_cons, ih (fun n hn => h n (List.mem_cons_of_mem name hn)), Machine.step,
        if_neg hback, List.append_assoc, List.singleton_append]

/-- The names that are left after some steps were there at the start or lead down. -/
theorem mem_foldl_step {names : List (List Char)} {start : Place} {name : List Char}
    (h : name ∈ names.foldl Machine.step start) :
    name ∈ start ∨ name ∈ names ∧ name ≠ "..".toList := by
  induction names generalizing start with
  | nil => exact .inl h
  | cons first rest ih =>
      rcases ih h with hstep | ⟨hrest, hback⟩
      · unfold Machine.step at hstep
        split at hstep
        · exact .inl ((List.dropLast_sublist start).subset hstep)
        next hfirst =>
          rcases List.mem_append.1 hstep with hstart | hname
          · exact .inl hstart
          · rw [List.mem_singleton.1 hname]
            exact .inr ⟨List.mem_cons_self, hfirst⟩
      · exact .inr ⟨List.mem_cons_of_mem first hrest, hback⟩

theorem span_foldl_step_le (names : List (List Char)) (start : Place) :
    span (names.foldl Machine.step start) ≤ span start + span names := by
  induction names generalizing start with
  | nil => exact Nat.le_refl _
  | cons name rest ih =>
      have hstep : span (Machine.step start name) ≤ span start + (name.length + 1) := by
        unfold Machine.step
        split
        · rcases List.eq_nil_or_concat start with rfl | ⟨before, last, rfl⟩
          · exact Nat.zero_le _
          · rw [List.concat_eq_append, List.dropLast_concat, span_append]
            omega
        · rw [span_append]
          exact Nat.le_refl _
      have hrest := ih (Machine.step start name)
      rw [List.foldl_cons, span]
      omega

theorem span_steps_le (s : List Char) : span (steps s) ≤ s.length + 1 := by
  rw [← span_splitOn '/' s]
  exact span_filter_le isStep _

theorem length_text_ofNames {place : Place} (hne : place ≠ [])
    (h : ∀ name ∈ place, IsName name) : (Path.ofNames place).text.length = span place := by
  have hlength := span_splitOn '/' (joinWith ['/'] place)
  rw [splitOn_joinWith hne fun name hname => (h name hname).slash] at hlength
  rw [text_ofNames, List.length_cons, hlength]

/-- Only a text that is as long as the path of a place leads there from the root. -/
theorem length_text_le_of_foldl_step {place : Place} {s : List Char}
    (h : place = (steps ('/' :: s)).foldl Machine.step []) :
    (Path.ofNames place).text.length ≤ s.length + 1 := by
  by_cases hne : place = []
  · rw [hne, text_ofNames]
    exact Nat.succ_le_succ (Nat.zero_le _)
  have hnames : ∀ name ∈ place, IsName name := by
    intro name hname
    rw [h] at hname
    rcases mem_foldl_step hname with hnil | ⟨hmem, _⟩
    · cases hnil
    · exact isName_of_mem_steps hmem
  calc (Path.ofNames place).text.length
      = span place := length_text_ofNames hne hnames
    _ ≤ span [] + span (steps ('/' :: s)) := h ▸ span_foldl_step_le _ _
    _ = span (steps s) := by rw [steps_cons]; exact Nat.zero_add _
    _ ≤ s.length + 1 := span_steps_le s

end Files
end Folio
