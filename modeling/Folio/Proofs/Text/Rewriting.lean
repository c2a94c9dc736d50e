import Folio.Text.Search

/-!
# Rewriting in passes

A text may be rewritten by several rules, in one pass for each rule or in a single pass
for all of them. The two agree when no rule disturbs a later one: what it takes away
never reaches into a later rule's places, and what it writes neither holds the start of
such a place nor completes one.

`Rule.foldl_apply` says so for a list of rules, and `Rule.find?_congr` that the single
pass does not see the order of the rules.
-/

namespace Folio
namespace Text

/-!
## Texts that start alike
-/

/-- One of two texts begins with the other. -/
def Meets (a b : List Char) : Prop :=
  a <+: b ∨ b <+: a

theorem meets_of_append_eq {a b x y : List Char} (h : a ++ x = b ++ y) : Meets a b :=
  List.prefix_or_prefix_of_prefix ⟨x, rfl⟩ ⟨y, h.symm⟩

theorem Meets.symm {a b : List Char} (h : Meets a b) : Meets b a :=
  Or.symm h

theorem Meets.of_append_left {a b w : List Char} (h : Meets (a ++ b) w) : Meets a w := by
  rcases h with ⟨x, hx⟩ | ⟨x, hx⟩
  · exact Or.inl ⟨b ++ x, by rw [← List.append_assoc, hx]⟩
  · exact meets_of_append_eq hx.symm

theorem Meets.of_append_right {a w v : List Char} (h : Meets a (w ++ v)) : Meets a w :=
  h.symm.of_append_left.symm

theorem meets_cons_cons {c d : Char} {a b : List Char} :
    Meets (c :: a) (d :: b) ↔ c = d ∧ Meets a b := by
  constructor
  · intro h
    rcases h with h | h
    · exact ⟨(List.cons_prefix_cons.1 h).1, Or.inl (List.cons_prefix_cons.1 h).2⟩
    · exact ⟨(List.cons_prefix_cons.1 h).1.symm, Or.inr (List.cons_prefix_cons.1 h).2⟩
  · intro h
    rcases h with ⟨rfl, h | h⟩
    · exact Or.inl (List.cons_prefix_cons.2 ⟨rfl, h⟩)
    · exact Or.inr (List.cons_prefix_cons.2 ⟨rfl, h⟩)

instance (a b : List Char) : Decidable (Meets a b) :=
  inferInstanceAs (Decidable (a <+: b ∨ b <+: a))

/-- No copy of `w` starts inside a text, not even one that runs on behind its end. -/
def Clear (w : List Char) : List Char -> Prop
  | [] => True
  | c :: rest => ¬ Meets (c :: rest) w ∧ Clear w rest

instance decidableClear (w : List Char) : (s : List Char) → Decidable (Clear w s)
  | [] => .isTrue trivial
  | c :: rest =>
      let := decidableClear w rest
      inferInstanceAs (Decidable (¬ Meets (c :: rest) w ∧ Clear w rest))

theorem clear_iff {w s : List Char} :
    Clear w s ↔
      forall before rest, s = before ++ rest -> rest ≠ [] -> ¬ Meets rest w := by
  induction s with
  | nil =>
      constructor
      · intro _ before rest h hne
        exact absurd (List.append_eq_nil_iff.1 h.symm).2 hne
      · intro _
        trivial
  | cons c s ih =>
      constructor
      · intro h before rest hs hne
        cases before with
        | nil =>
            rw [List.nil_append] at hs
            exact hs ▸ h.1
        | cons d before =>
            rw [List.cons_append, List.cons.injEq] at hs
            exact ih.1 h.2 before rest hs.2 hne
      · intro h
        refine ⟨h [] (c :: s) rfl (by simp), ih.2 ?_⟩
        intro before rest hs hne
        exact h (c :: before) rest (by rw [hs, List.cons_append]) hne

theorem Clear.append {w a b : List Char} (ha : Clear w a) (hb : Clear w b) :
    Clear w (a ++ b) := by
  induction a with
  | nil => exact hb
  | cons c a ih =>
      refine ⟨?_, ih ha.2⟩
      intro h
      exact ha.1 (Meets.of_append_left (a := c :: a) h)

theorem clear_of_notMem {c : Char} {w s : List Char} (h : c ∉ s) : Clear (c :: w) s := by
  induction s with
  | nil => trivial
  | cons d s ih =>
      rw [List.mem_cons, not_or] at h
      refine ⟨?_, ih h.2⟩
      intro hm
      exact h.1 (meets_cons_cons.1 hm).1.symm

theorem not_occurs_of_append_left {w a b : List Char} (h : occurs w (a ++ b) = false) :
    occurs w a = false := by
  rw [Bool.eq_false_iff] at h ⊢
  intro ha
  rcases occurs_iff.1 ha with ⟨before, after, rfl⟩
  exact h (occurs_iff.2 ⟨before, after ++ b, by simp only [List.append_assoc]⟩)

theorem not_occurs_of_append_right {w a b : List Char} (h : occurs w (a ++ b) = false) :
    occurs w b = false := by
  rw [Bool.eq_false_iff] at h ⊢
  intro hb
  rcases occurs_iff.1 hb with ⟨before, after, rfl⟩
  exact h (occurs_iff.2 ⟨a ++ before, after, by simp only [List.append_assoc]⟩)

/-- What holds no copy of `w`, and ends with a character that `w` does not hold, is
clear of it. -/
theorem clear_of_not_occurs {w s : List Char} {c : Char} (hw : occurs w s = false)
    (hlast : s.getLast? = some c) (hc : c ∉ w) : Clear w s := by
  refine clear_iff.2 ?_
  intro before rest hs hne hm
  rcases hm with ⟨x, hx⟩ | ⟨x, hx⟩
  · have hrest : rest.getLast? = some c := by
      rw [hs, List.getLast?_append, List.getLast?_eq_some_getLast hne, Option.some_or] at hlast
      rw [List.getLast?_eq_some_getLast hne, hlast]
    apply hc
    rw [← hx]
    exact List.mem_append_left x (List.mem_of_getLast? hrest)
  · rw [Bool.eq_false_iff] at hw
    exact hw (occurs_iff.2 ⟨before, x, by rw [hs, ← hx, List.append_assoc]⟩)

/-- No copy of `w` stands at the start of a text that begins with something clear of it. -/
theorem Clear.not_prefix_append {w p : List Char} (h : Clear w p) (hp : p ≠ [])
    (s : List Char) : ¬ w <+: p ++ s := by
  intro h
  rcases h with ⟨x, hx⟩
  exact clear_iff.1 h [] p rfl hp (meets_of_append_eq hx.symm)

/-- A copy of `w` in a text that begins with something clear of it lies behind that. -/
theorem Clear.occurs_append {w p : List Char} (h : Clear w p) (s : List Char) :
    occurs w (p ++ s) = occurs w s := by
  induction p with
  | nil => rfl
  | cons c p ih =>
      have hstart : startsWith w (c :: (p ++ s)) = false := by
        rw [Bool.eq_false_iff]
        intro hs
        rcases startsWith_iff.1 hs with ⟨rest, hrest⟩
        exact h.not_prefix_append (by simp) s ⟨rest, hrest.symm⟩
      rw [List.cons_append, occurs, hstart, Bool.false_or, ih h.2]

theorem Clear.not_occurs {w p : List Char} (h : Clear w p) (hw : w ≠ []) :
    occurs w p = false := by
  have hempty := h.occurs_append []
  rw [List.append_nil] at hempty
  rw [hempty, occurs, List.isEmpty_eq_false_iff]
  exact hw

/-- A text that holds no copy of `w`, followed by something that does not start inside
`w`, does not begin with `w`. -/
theorem not_prefix_append_append {w before place : List Char} (hbefore : occurs w before = false)
    (hclear : Clear place w.tail) (hne : before ≠ []) (rest : List Char) :
    ¬ w <+: before ++ (place ++ rest) := by
  intro h
  rcases h with ⟨x, hx⟩
  rcases List.append_eq_append_iff.1 hx with ⟨y, hy, -⟩ | ⟨y, hy, hrest⟩
  · rw [Bool.eq_false_iff] at hbefore
    exact hbefore (occurs_iff.2 ⟨[], y, by rw [List.nil_append, hy]⟩)
  · have hy_ne : y ≠ [] := by
      intro h
      subst h
      rw [Bool.eq_false_iff] at hbefore
      exact hbefore (occurs_iff.2 ⟨[], [], by simp [hy]⟩)
    have htail : w.tail = before.tail ++ y := by
      rw [hy, List.tail_append_of_ne_nil hne]
    exact clear_iff.1 hclear before.tail y htail hy_ne (meets_of_append_eq hrest.symm)

/-!
## Rules
-/

/-- A rule of rewriting: which texts it turns into which, and how it finds one of them
at the start of a text, together with what follows. -/
structure Rule where
  find? : List Char -> Option (List Char × List Char)
  /-- Whether the rule turns one text into another. -/
  Turns : List Char -> List Char -> Prop
  find?_eq_some_iff : forall {s new rest},
    find? s = some (new, rest) ↔ exists old, Turns old new ∧ s = old ++ rest
  /-- No place of a rule is empty. -/
  ne_nil : forall {old new}, Turns old new -> old ≠ []

namespace Rule

def apply (r : Rule) (s : List Char) : List Char :=
  rewrite r.find? s

@[simp] theorem apply_nil (r : Rule) : r.apply [] = [] := rfl

theorem apply_append_of_turns (r : Rule) {old new : List Char} (h : r.Turns old new)
    (rest : List Char) : r.apply (old ++ rest) = new ++ r.apply rest :=
  rewrite_append_of_some (r.ne_nil h) (r.find?_eq_some_iff.2 ⟨old, h, rfl⟩)

theorem apply_cons_of_none (r : Rule) {c : Char} {rest : List Char}
    (h : r.find? (c :: rest) = none) : r.apply (c :: rest) = c :: r.apply rest :=
  rewrite_cons_of_none h

/-- What a rule finds is all that its two relations say, so rules that turn the same
texts alike find the same. -/
theorem find?_congr {r r' : Rule} (h : forall old new, r.Turns old new ↔ r'.Turns old new) :
    r.find? = r'.find? := by
  funext s
  refine Option.ext ?_
  intro h
  rcases h with ⟨new, rest⟩
  rw [r.find?_eq_some_iff, r'.find?_eq_some_iff]
  constructor
  · intro h
    rcases h with ⟨old, hold, hs⟩
    exact ⟨old, (h old new).1 hold, hs⟩
  · intro h
    rcases h with ⟨old, hold, hs⟩
    exact ⟨old, (h old new).2 hold, hs⟩

theorem apply_congr {r r' : Rule} (h : forall old new, r.Turns old new ↔ r'.Turns old new)
    (s : List Char) : r.apply s = r'.apply s := by
  rw [apply, apply, find?_congr h]

/-- Read a text as the pass of a rule does: one of its places, or a character that
starts none. -/
@[elab_as_elim]
theorem scan (r : Rule) {motive : List Char -> Prop} (nil : motive [])
    (hit : forall old new rest, r.Turns old new -> motive rest -> motive (old ++ rest))
    (step : forall c rest, r.find? (c :: rest) = none -> motive rest -> motive (c :: rest))
    (s : List Char) : motive s := by
  match s with
  | [] => exact nil
  | c :: tail =>
      cases h : r.find? (c :: tail) with
      | none => exact step c tail h (scan r nil hit step tail)
      | some found =>
          rcases found with ⟨new, rest⟩
          rcases r.find?_eq_some_iff.1 h with ⟨old, hold, hs⟩
          have hlength : rest.length < (c :: tail).length := by
            have := List.length_pos_iff.2 (r.ne_nil hold)
            rw [hs, List.length_append]
            omega
          rw [hs]
          exact hit old new rest hold (scan r nil hit step rest)
termination_by s.length
decreasing_by
  · exact Nat.lt_succ_self tail.length
  · exact hlength

/-- A pass leaves alone what is clear of all the places of its rule. -/
theorem apply_append_of_clear (r : Rule) {p : List Char}
    (h : forall old new, r.Turns old new -> Clear old p) (s : List Char) :
    r.apply (p ++ s) = p ++ r.apply s := by
  induction p with
  | nil => rfl
  | cons c p ih =>
      have hnone : r.find? (c :: (p ++ s)) = none := by
        rw [Option.eq_none_iff_forall_ne_some]
        intro h hfound
        rcases h with ⟨new, rest⟩
        rcases r.find?_eq_some_iff.1 hfound with ⟨old, hold, hs⟩
        exact (h old new hold).not_prefix_append (by simp) s ⟨rest, hs.symm⟩
      rw [List.cons_append, r.apply_cons_of_none hnone, ih fun old new ho => (h old new ho).2,
        List.cons_append]

/-- No place of a rule reaches across the seam of two texts. -/
def Parts (r : Rule) (a b : List Char) : Prop :=
  forall old new, r.Turns old new -> forall front y z, a = front ++ y -> old = y ++ z ->
    y ≠ [] -> z <+: b -> z = []

/-- A pass over two texts is a pass over each of them, if no place reaches across the seam. -/
theorem apply_append (r : Rule) {a b : List Char} (h : r.Parts a b) :
    r.apply (a ++ b) = r.apply a ++ r.apply b := by
  induction a using r.scan with
  | nil => rfl
  | hit old new rest hold ih =>
      rw [List.append_assoc, r.apply_append_of_turns hold, r.apply_append_of_turns hold, ih,
        List.append_assoc]
      intro old' new' hold' front y z hrest
      exact h old' new' hold' (old ++ front) y z (by rw [hrest, List.append_assoc])
  | step c rest hnone ih =>
      have hacross : r.find? (c :: (rest ++ b)) = none := by
        rw [Option.eq_none_iff_forall_ne_some]
        intro found hfound
        rcases found with ⟨new, after⟩
        rcases r.find?_eq_some_iff.1 hfound with ⟨old, hold, hs⟩
        rw [← List.cons_append] at hs
        -- The place ends within the first text, where nothing was found, or reaches across.
        rcases List.append_eq_append_iff.1 hs with ⟨z, hz, hb⟩ | ⟨z, hz, hafter⟩
        · have hempty := h old new hold [] (c :: rest) z rfl hz (by simp) ⟨after, hb.symm⟩
          subst hempty
          have hfind : r.find? (c :: rest) = some (new, []) :=
            r.find?_eq_some_iff.2 ⟨old, hold, by rw [hz, List.append_nil, List.append_nil]⟩
          rw [hnone] at hfind
          cases hfind
        · have hfind : r.find? (c :: rest) = some (new, z) :=
            r.find?_eq_some_iff.2 ⟨old, hold, hz⟩
          rw [hnone] at hfind
          cases hfind
      rw [List.cons_append, r.apply_cons_of_none hacross, r.apply_cons_of_none hnone, ih,
        List.cons_append]
      intro old new hold front y z hrest
      exact h old new hold (c :: front) y z (by rw [hrest, List.cons_append])

/-- If what a rule writes starts nowhere inside a text, and that text stands at the start
of what the pass gives, it stood there before. -/
theorem prefix_of_prefix_apply (r : Rule) {v s : List Char}
    (h : forall old new, r.Turns old new -> Clear new v) (hv : v <+: r.apply s) : v <+: s := by
  induction v generalizing s with
  | nil => exact List.nil_prefix
  | cons a v ih =>
      cases s with
      | nil => exact hv
      | cons b s =>
          cases hfind : r.find? (b :: s) with
          | none =>
              rw [r.apply_cons_of_none hfind, List.cons_prefix_cons] at hv
              rw [List.cons_prefix_cons]
              exact ⟨hv.1, ih (fun old new ho => (h old new ho).2) hv.2⟩
          | some found =>
              rcases found with ⟨new, rest⟩
              rcases r.find?_eq_some_iff.1 hfind with ⟨old, hold, hs⟩
              rw [hs, r.apply_append_of_turns hold] at hv
              rcases hv with ⟨x, hx⟩
              exact absurd (meets_of_append_eq hx) (h old new hold).1

/-!
## Replacing one text
-/

/-- The rule that turns one text into another. -/
def word (old new : List Char) : Rule where
  find? s := if old.isEmpty then none else (dropPrefix? old s).map fun rest => (new, rest)
  Turns a b := old ≠ [] ∧ a = old ∧ b = new
  find?_eq_some_iff := by
    intro s m rest
    cases old with
    | nil => simp
    | cons c old =>
        simp only [List.isEmpty_cons, Bool.false_eq_true, if_false, Option.map_eq_some_iff,
          Prod.mk.injEq, dropPrefix?_eq_some_iff]
        constructor
        · intro h
          rcases h with ⟨x, hs, rfl, rfl⟩
          exact ⟨c :: old, ⟨by simp, rfl, rfl⟩, hs⟩
        · intro h
          rcases h with ⟨w, ⟨-, rfl, rfl⟩, hs⟩
          exact ⟨rest, hs, rfl, rfl⟩
  ne_nil := by
    intro a b h
    rcases h with ⟨hne, rfl, -⟩
    exact hne

theorem apply_word {old : List Char} (hne : old ≠ []) (new s : List Char) :
    (word old new).apply s = replaceAll old new s := by
  have hempty : old.isEmpty = false := by
    cases old with
    | nil => exact absurd rfl hne
    | cons c old => rfl
  simp only [apply, word, replaceAll, hempty, Bool.false_eq_true, if_false]

/-- The rule that writes other texts for some characters. -/
def sign (f : Char -> List Char) : Rule where
  find? s :=
    match s with
    | [] => none
    | c :: rest => if f c = [c] then none else some (f c, rest)
  Turns old new := exists c, f c ≠ [c] ∧ old = [c] ∧ new = f c
  find?_eq_some_iff := by
    intro s new rest
    constructor
    · intro h
      cases s with
      | nil => cases h
      | cons c tail =>
          simp only at h
          split at h
          · cases h
          next hc =>
            cases h
            exact ⟨[c], ⟨c, hc, rfl, rfl⟩, rfl⟩
    · rintro ⟨old, ⟨c, hc, rfl, rfl⟩, rfl⟩
      exact if_neg hc
  ne_nil := by
    rintro old new ⟨c, -, rfl, -⟩
    simp

theorem apply_sign (f : Char -> List Char) (s : List Char) :
    (sign f).apply s = s.flatMap f := by
  induction s with
  | nil => rfl
  | cons c rest ih =>
      rw [List.flatMap_cons, ← ih]
      by_cases hc : f c = [c]
      · rw [(sign f).apply_cons_of_none (if_pos hc), hc]
        rfl
      · exact (sign f).apply_append_of_turns ⟨c, hc, rfl, rfl⟩ rest

/-- Replacing several texts one after the other is a pass for each of them. -/
theorem foldl_replaceAll {α : Type} (items : List α) (old new : α -> List Char)
    (hne : ∀ x ∈ items, old x ≠ []) (s : List Char) :
    items.foldl (fun s x => replaceAll (old x) (new x) s) s =
      (items.map fun x => word (old x) (new x)).foldl (fun s r => r.apply s) s := by
  induction items generalizing s with
  | nil => rfl
  | cons x items ih =>
      rw [List.foldl_cons, List.map_cons, List.foldl_cons,
        apply_word (hne x List.mem_cons_self)]
      exact ih (fun y hy => hne y (List.mem_cons_of_mem x hy)) _

/-!
## One rule after another
-/

/-- One rule may be applied in a pass before another one. -/
structure Precedes (r r' : Rule) : Prop where
  /-- No place of the first rule reaches into one of the second. -/
  apart : forall {old new old' new'}, r.Turns old new -> r'.Turns old' new' -> Clear old old'
  /-- No place of the second rule starts in what the first one writes. -/
  inert : forall {old new old' new'}, r.Turns old new -> r'.Turns old' new' -> Clear old' new
  /-- What the first rule writes goes on with no place of the second. -/
  fresh : forall {old new old' new'}, r.Turns old new -> r'.Turns old' new' -> Clear new old'.tail

/-- A character that starts no place of either rule starts none of the second one after
the pass of the first. -/
theorem Precedes.find?_cons_apply {r r' : Rule} (h : r.Precedes r') {c : Char}
    {rest : List Char} (hnone : r'.find? (c :: rest) = none) :
    r'.find? (c :: r.apply rest) = none := by
  rw [Option.eq_none_iff_forall_ne_some]
  intro h hfound
  rcases h with ⟨new', after⟩
  rcases r'.find?_eq_some_iff.1 hfound with ⟨old', hold', hs⟩
  cases old' with
  | nil => exact r'.ne_nil hold' rfl
  | cons d v =>
      rw [List.cons_append, List.cons.injEq] at hs
      rcases hs with ⟨rfl, hv⟩
      rcases r.prefix_of_prefix_apply (fun old new ho => h.fresh ho hold') ⟨after, hv.symm⟩
        with ⟨y, hy⟩
      have hfind : r'.find? (c :: rest) = some (new', y) :=
        r'.find?_eq_some_iff.2 ⟨c :: v, hold', by rw [← hy, List.cons_append]; rfl⟩
      rw [hnone] at hfind
      cases hfind

/-!
## Several rules as one
-/

theorem findSome?_eq_some_iff {rules : List Rule} (h : rules.Pairwise Precedes)
    {s new rest : List Char} :
    rules.findSome? (·.find? s) = some (new, rest) ↔
      exists old, (∃ r ∈ rules, r.Turns old new) ∧ s = old ++ rest := by
  constructor
  · intro hfound
    rcases List.exists_of_findSome?_eq_some hfound with ⟨r, hr, hfind⟩
    rcases r.find?_eq_some_iff.1 hfind with ⟨old, hold, hs⟩
    exact ⟨old, ⟨r, hr, hold⟩, hs⟩
  · intro h
    rcases h with ⟨old, ⟨r, hr, hold⟩, hs⟩
    induction rules with
    | nil => cases hr
    | cons first rules ih =>
        rcases List.pairwise_cons.1 h with ⟨hfirst, hrules⟩
        rw [List.findSome?_cons]
        rcases List.mem_cons.1 hr with rfl | hr
        · rw [r.find?_eq_some_iff.2 ⟨old, hold, hs⟩]
        · have hnone : first.find? s = none := by
            rw [Option.eq_none_iff_forall_ne_some]
            intro h hfound
            rcases h with ⟨m, x⟩
            rcases first.find?_eq_some_iff.1 hfound with ⟨w, hw, hx⟩
            exact ((hfirst r hr).apart hw hold).not_prefix_append (r.ne_nil hold) rest
              ⟨x, by rw [← hx, hs]⟩
          rw [hnone]
          exact ih hrules hr

/-- Several rules as one, where each may be applied before those that follow it. -/
def firstOf (rules : List Rule) (h : rules.Pairwise Precedes) : Rule where
  find? s := rules.findSome? (·.find? s)
  Turns old new := ∃ r ∈ rules, r.Turns old new
  find?_eq_some_iff := findSome?_eq_some_iff h
  ne_nil := by
    intro old new h
    rcases h with ⟨r, -, hold⟩
    exact r.ne_nil hold

/-- The pass of a rule, and then one by all that follow it, is one pass. -/
theorem firstOf_apply_apply {r : Rule} {rules : List Rule} (hr : ∀ r' ∈ rules, r.Precedes r')
    (h : rules.Pairwise Precedes) (s : List Char) :
    (firstOf rules h).apply (r.apply s) =
      (firstOf (r :: rules) (List.pairwise_cons.2 ⟨hr, h⟩)).apply s := by
  induction s using (firstOf (r :: rules) (List.pairwise_cons.2 ⟨hr, h⟩)).scan with
  | nil => rfl
  | hit old new rest hold ih =>
      rw [apply_append_of_turns _ hold, ← ih]
      rcases hold with ⟨r', hr', hturns⟩
      rcases List.mem_cons.1 hr' with rfl | hr'
      · rw [r'.apply_append_of_turns hturns, apply_append_of_clear]
        intro w m h
        rcases h with ⟨other, hother, hw⟩
        exact (hr other hother).inert hturns hw
      · rw [r.apply_append_of_clear fun w m hw => (hr r' hr').apart hw hturns,
          apply_append_of_turns (firstOf rules h) ⟨r', hr', hturns⟩]
  | step c rest hnone ih =>
      rw [apply_cons_of_none _ hnone, ← ih]
      have hall := List.findSome?_eq_none_iff.1 hnone
      rw [r.apply_cons_of_none (hall r List.mem_cons_self), apply_cons_of_none]
      refine List.findSome?_eq_none_iff.2 ?_
      intro r' hr'
      exact (hr r' hr').find?_cons_apply (hall r' (List.mem_cons_of_mem r hr'))

/-- The passes of several rules are one pass by all of them. -/
theorem foldl_apply (rules : List Rule) (h : rules.Pairwise Precedes) (s : List Char) :
    rules.foldl (fun s r => r.apply s) s = (firstOf rules h).apply s := by
  induction rules generalizing s with
  | nil =>
      have hsame := (firstOf [] h).apply_append_of_clear (p := s)
        (fun old new ⟨r, hr, _⟩ => absurd hr List.not_mem_nil) []
      simpa using hsame.symm
  | cons r rules ih =>
      rcases List.pairwise_cons.1 h with ⟨hr, hrules⟩
      rw [List.foldl_cons, ih hrules, firstOf_apply_apply hr]

theorem firstOf_apply_perm {rules rules' : List Rule} (h : rules.Pairwise Precedes)
    (h' : rules'.Pairwise Precedes) (hperm : rules.Perm rules') (s : List Char) :
    (firstOf rules h).apply s = (firstOf rules' h').apply s := by
  apply apply_congr
  intro old new
  constructor
  · intro h
    rcases h with ⟨r, hr, ho⟩
    exact ⟨r, hperm.mem_iff.1 hr, ho⟩
  · intro h
    rcases h with ⟨r, hr, ho⟩
    exact ⟨r, hperm.mem_iff.2 hr, ho⟩

/-- A pass leaves no place of its rule that what it writes neither holds nor completes. -/
theorem not_occurs_apply (r : Rule) {w m : List Char} (hw : r.Turns w m)
    (hinert : forall old new, r.Turns old new -> Clear w new)
    (hfresh : forall old new, r.Turns old new -> Clear new w.tail) (s : List Char) :
    occurs w (r.apply s) = false := by
  induction s using r.scan with
  | nil =>
      cases w with
      | nil => exact absurd rfl (r.ne_nil hw)
      | cons c v => rfl
  | hit old new rest hold ih =>
      rw [r.apply_append_of_turns hold, (hinert old new hold).occurs_append]
      exact ih
  | step c rest hnone ih =>
      rw [r.apply_cons_of_none hnone, occurs, ih, Bool.or_false, Bool.eq_false_iff]
      intro hstart
      rcases startsWith_iff.1 hstart with ⟨x, hx⟩
      cases w with
      | nil => exact absurd rfl (r.ne_nil hw)
      | cons d v =>
          rw [List.cons_append, List.cons.injEq] at hx
          rcases hx with ⟨rfl, hv⟩
          rcases r.prefix_of_prefix_apply hfresh ⟨x, hv.symm⟩ with ⟨y, hy⟩
          have hfind : r.find? (c :: rest) = some (m, y) :=
            r.find?_eq_some_iff.2 ⟨c :: v, hw, by rw [← hy, List.cons_append]; rfl⟩
          rw [hnone] at hfind
          cases hfind

/-- A pass leaves the start of a text alone that neither a place of its rule nor what it writes
reaches into. -/
theorem startsWith_apply (r : Rule) {v : List Char}
    (h : forall old new, r.Turns old new -> Clear old v ∧ Clear new v) (s : List Char) :
    startsWith v (r.apply s) = startsWith v s := by
  rw [Bool.eq_iff_iff, startsWith_iff, startsWith_iff]
  constructor
  · rintro ⟨rest, hrest⟩
    rcases r.prefix_of_prefix_apply (fun old new hold => (h old new hold).2) ⟨rest, hrest.symm⟩
      with ⟨x, hx⟩
    exact ⟨x, hx.symm⟩
  · rintro ⟨rest, rfl⟩
    exact ⟨r.apply rest, r.apply_append_of_clear (fun old new hold => (h old new hold).1) rest⟩

/-- A pass neither adds nor takes away a text that no place of its rule and nothing that it
writes meets. -/
theorem occurs_apply (r : Rule) {w : List Char} (hw : w ≠ [])
    (hplace : forall old new, r.Turns old new -> Clear w old ∧ Clear old w)
    (hnew : forall old new, r.Turns old new -> Clear w new ∧ Clear new w.tail) (s : List Char) :
    occurs w (r.apply s) = occurs w s := by
  cases w with
  | nil => exact absurd rfl hw
  | cons d v =>
      have hstart := r.startsWith_apply fun old new hold =>
        ⟨(hplace old new hold).2.2, (hnew old new hold).2⟩
      induction s using r.scan with
      | nil => rfl
      | hit old new rest hold ih =>
          rw [r.apply_append_of_turns hold, (hnew old new hold).1.occurs_append,
            (hplace old new hold).1.occurs_append, ih]
      | step c rest hnone ih =>
          -- A copy may start at a character that stays; the rest of it starts what follows.
          rw [r.apply_cons_of_none hnone, occurs, occurs, ih]
          by_cases hd : d = c
          · have hrest := hstart rest
            simp only [startsWith, dropPrefix?, hd, if_true] at hrest ⊢
            rw [hrest]
          · simp only [startsWith, dropPrefix?, hd, if_false]

/-!
## Places in a text that holds no others
-/

theorem apply_of_not_occurs (r : Rule) {s : List Char}
    (h : forall old new, r.Turns old new -> occurs old s = false) : r.apply s = s := by
  induction s using r.scan with
  | nil => rfl
  | hit old new rest hold ih =>
      have hin : occurs old (old ++ rest) = true := occurs_iff.2 ⟨[], rest, rfl⟩
      rw [h old new hold] at hin
      cases hin
  | step c rest hnone ih =>
      rw [r.apply_cons_of_none hnone, ih]
      intro old new hold
      have := h old new hold
      rw [occurs, Bool.or_eq_false_iff] at this
      exact this.2

/-- A pass writes what stands before the first place of its rule, and then the new text
for that place. -/
theorem apply_append_append (r : Rule) {before place new : List Char}
    (hplace : r.Turns place new)
    (hbefore : forall old m, r.Turns old m -> occurs old before = false)
    (hclear : forall old m, r.Turns old m -> Clear place old.tail) (rest : List Char) :
    r.apply (before ++ (place ++ rest)) = before ++ (new ++ r.apply rest) := by
  induction before with
  | nil => exact r.apply_append_of_turns hplace rest
  | cons c before ih =>
      have hnone : r.find? (c :: (before ++ (place ++ rest))) = none := by
        rw [Option.eq_none_iff_forall_ne_some]
        intro h hfound
        rcases h with ⟨m, x⟩
        rcases r.find?_eq_some_iff.1 hfound with ⟨old, hold, hs⟩
        exact not_prefix_append_append (hbefore old m hold) (hclear old m hold) (by simp) rest
          ⟨x, hs.symm⟩
      rw [List.cons_append, r.apply_cons_of_none hnone, ih]
      · rfl
      · intro old m hold
        have := hbefore old m hold
        rw [occurs, Bool.or_eq_false_iff] at this
        exact this.2

end Rule
end Text
end Folio
