import Mathlib.Data.List.Infix
import Mathlib.Data.List.Chain
import Mathlib.Data.List.Pairwise

/-!
# Parts in their places

A text that is put together from parts has each of them in a place. The parts stand one
behind the other (`pairwise_located`), and an extent that shares no place with the parts of
one kind lies within a single part of the other kind, if two of those never stand side by
side (`exists_of_apart`).
-/

namespace Folio
namespace Text

/-- The places of a text from one on, up to another. -/
structure Extent where
  start : Nat
  stop : Nat
  deriving DecidableEq, Repr

namespace Extent

/-- Whether two extents share no place. -/
def Apart (r t : Extent) : Prop :=
  r.stop ≤ t.start ∨ t.stop ≤ r.start

/-- Whether an extent lies within another. -/
def Within (r t : Extent) : Prop :=
  t.start ≤ r.start ∧ r.stop ≤ t.stop

instance (r t : Extent) : Decidable (r.Apart t) :=
  inferInstanceAs (Decidable (_ ∨ _))

/-- What stands in an extent of a text. -/
def cut (r : Extent) (s : List Char) : List Char :=
  (s.take r.stop).drop r.start

theorem cut_infix {r t : Extent} (h : r.Within t) (s : List Char) : r.cut s <:+: t.cut s := by
  have hstart : r.start = t.start + (r.start - t.start) := by
    have := h.1
    omega
  have hprefix : (s.take r.stop).drop t.start <+: (s.take t.stop).drop t.start :=
    (List.take_prefix_take_left h.2).drop t.start
  rw [cut, cut, hstart, ← List.drop_drop]
  exact (List.drop_suffix _ _).isInfix.trans hprefix.isInfix

theorem cut_append (front inside back : List Char) :
    (⟨front.length, (front ++ inside).length⟩ : Extent).cut (front ++ inside ++ back) =
      inside := by
  rw [cut, List.take_left, List.drop_left]

/-- Whether an extent is that of a text between two others. -/
def Splits (r : Extent) (source before text after : List Char) : Prop :=
  source = before ++ (text ++ after) ∧ r = ⟨before.length, before.length + text.length⟩

theorem Splits.cut_eq {r : Extent} {source before text after : List Char}
    (h : r.Splits source before text after) : r.cut source = text := by
  rcases h with ⟨rfl, rfl⟩
  rw [← List.length_append, ← List.append_assoc, cut_append]

theorem Splits.eq_of_start_eq {r t : Extent} {source : List Char}
    {before text after before' text' after' : List Char}
    (hr : r.Splits source before text after) (ht : t.Splits source before' text' after')
    (h : r.start = t.start) : before = before' ∧ text ++ after = text' ++ after' := by
  rcases hr with ⟨hr, rfl⟩
  rcases ht with ⟨ht, rfl⟩
  exact List.append_inj (hr.symm.trans ht) h

end Extent

/-- A text that is cut within one of its parts. -/
theorem exists_append_of_append_eq {before rest front t back : List Char}
    (h : before ++ rest = front ++ (t ++ back)) (hstart : front.length ≤ before.length)
    (hstop : before.length ≤ front.length + t.length) :
    exists a b, t = a ++ b ∧ before = front ++ a ∧ rest = b ++ back := by
  rcases List.prefix_of_prefix_length_le ⟨t ++ back, h.symm⟩ ⟨rest, rfl⟩ hstart with ⟨a, rfl⟩
  rw [List.append_assoc, List.append_cancel_left_eq] at h
  rw [List.length_append, Nat.add_le_add_iff_left] at hstop
  rcases List.prefix_of_prefix_length_le ⟨rest, h⟩ ⟨back, rfl⟩ hstop with ⟨b, rfl⟩
  rw [List.append_assoc, List.append_cancel_left_eq] at h
  exact ⟨a, b, rfl, rfl, h⟩

/-- A part of a text in its place. -/
structure Located (β : Type) where
  start : Nat
  part : β
  deriving DecidableEq, Repr

variable {β : Type}

/-- The extent of a part. -/
def Located.extent (text : β -> List Char) (p : Located β) : Extent :=
  ⟨p.start, p.start + (text p.part).length⟩

/-- Parts, the first of which stands in a given place, and each other behind the one before. -/
def located (text : β -> List Char) (start : Nat) : List β -> List (Located β)
  | [] => []
  | x :: rest => ⟨start, x⟩ :: located text (start + (text x).length) rest

variable {text : β -> List Char}

theorem map_part_located (start : Nat) (l : List β) :
    (located text start l).map Located.part = l := by
  induction l generalizing start with
  | nil => rfl
  | cons x rest ih => rw [located, List.map_cons, ih]

theorem located_append (start : Nat) (l m : List β) :
    located text start (l ++ m) =
      located text start l ++ located text (start + (l.flatMap text).length) m := by
  induction l generalizing start with
  | nil => rfl
  | cons x rest ih =>
      rw [List.cons_append, located, located, ih, List.flatMap_cons, List.length_append,
        Nat.add_assoc, List.cons_append]

/-- The place of a part is behind the parts in front of it. -/
theorem exists_of_mem_located {start : Nat} {l : List β} {p : Located β}
    (h : p ∈ located text start l) :
    exists before after, l = before ++ p.part :: after ∧
      p.start = start + (before.flatMap text).length := by
  induction l generalizing start with
  | nil => cases h
  | cons x rest ih =>
      rcases List.mem_cons.1 h with rfl | h
      · exact ⟨[], rest, rfl, rfl⟩
      · rcases ih h with ⟨before, after, rfl, hstart⟩
        refine ⟨x :: before, after, rfl, ?_⟩
        rw [hstart, List.flatMap_cons, List.length_append, Nat.add_assoc]

theorem mem_located_append_cons (start : Nat) (l m : List β)
    (x : β) : ⟨start + (l.flatMap text).length, x⟩ ∈ located text start (l ++ x :: m) := by
  rw [located_append]
  exact List.mem_append_right _ List.mem_cons_self

theorem part_mem_of_mem_located {start : Nat} {l : List β} {p : Located β}
    (h : p ∈ located text start l) : p.part ∈ l := by
  rcases exists_of_mem_located h with ⟨before, after, rfl, -⟩
  exact List.mem_append_right before List.mem_cons_self

theorem start_le_of_mem_located {start : Nat} {l : List β} {p : Located β}
    (h : p ∈ located text start l) : start ≤ p.start := by
  rcases exists_of_mem_located h with ⟨before, after, -, hstart⟩
  omega

/-- Parts that are cut into smaller ones: a smaller part has its place within a larger one. -/
theorem mem_located_flatMap_iff {γ : Type} {whole : γ -> List Char} {f : γ -> List β}
    (hf : forall x, (f x).flatMap text = whole x) {start : Nat} {l : List γ} {p : Located β} :
    p ∈ located text start (l.flatMap f) ↔
      ∃ x ∈ located whole start l, p ∈ located text x.start (f x.part) := by
  induction l generalizing start with
  | nil => simp only [List.flatMap_nil, located, List.not_mem_nil, false_and, exists_false]
  | cons x rest ih =>
      rw [List.flatMap_cons, located_append, hf, List.mem_append, ih, located]
      simp only [List.mem_cons, or_and_right, exists_or, exists_eq_left]

/-- A part stands in its extent of the whole text. -/
theorem cut_extent {l : List β} {p : Located β} (h : p ∈ located text 0 l) :
    (p.extent text).cut (l.flatMap text) = text p.part := by
  rcases exists_of_mem_located h with ⟨before, after, hl, hstart⟩
  rw [Nat.zero_add] at hstart
  rw [Located.extent, hstart, ← List.length_append, hl, List.flatMap_append, List.flatMap_cons,
    ← List.append_assoc, Extent.cut_append]

theorem stop_le_of_mem_located {start : Nat} {l : List β} {p : Located β}
    (h : p ∈ located text start l) :
    (p.extent text).stop ≤ start + (l.flatMap text).length := by
  rcases exists_of_mem_located h with ⟨before, after, rfl, hstart⟩
  simp only [Located.extent, List.flatMap_append, List.flatMap_cons, List.length_append]
  omega

/-- Each part stands behind those in front of it. -/
theorem pairwise_located (start : Nat) (l : List β) :
    (located text start l).Pairwise fun p q => (p.extent text).stop ≤ q.start := by
  induction l generalizing start with
  | nil => exact List.Pairwise.nil
  | cons x rest ih =>
      refine List.pairwise_cons.2 ⟨?_, ih _⟩
      intro q hq
      exact start_le_of_mem_located hq

/-- Two different parts share no place. -/
theorem apart_of_ne {start : Nat} {l : List β} {p q : Located β}
    (hp : p ∈ located text start l) (hq : q ∈ located text start l) (hne : p ≠ q) :
    (p.extent text).Apart (q.extent text) := by
  have hpairs : (located text start l).Pairwise fun p q =>
      (p.extent text).Apart (q.extent text) := (pairwise_located start l).imp Or.inl
  have : Std.Symm fun p q : Located β => (p.extent text).Apart (q.extent text) :=
    ⟨fun _ _ h => Or.symm h⟩
  exact hpairs.forall hp hq hne

/-- Parts cut into smaller ones keep apart what was apart, if the cut does so for each part
and for the seam between two of them. -/
theorem isChain_flatMap {γ : Type} {R : β -> β -> Prop} {S : γ -> γ -> Prop} {f : γ -> List β}
    {l : List γ} (hchain : l.IsChain S) (hne : ∀ x ∈ l, f x ≠ [])
    (hparts : ∀ x ∈ l, (f x).IsChain R)
    (hseam : forall x y, S x y -> ∀ a ∈ f x, ∀ b ∈ f y, R a b) : (l.flatMap f).IsChain R := by
  induction l with
  | nil => exact List.IsChain.nil
  | cons x rest ih =>
      rw [List.flatMap_cons, List.isChain_append]
      refine ⟨hparts x List.mem_cons_self,
        ih hchain.tail (fun y hy => hne y (List.mem_cons_of_mem x hy))
          (fun y hy => hparts y (List.mem_cons_of_mem x hy)), ?_⟩
      intro a ha b hb
      cases rest with
      | nil => cases hb
      | cons y rest =>
          rw [List.flatMap_cons, List.head?_append_of_ne_nil _
            (hne y (List.mem_cons_of_mem x List.mem_cons_self))] at hb
          exact hseam x y hchain.rel a (List.mem_of_getLast? ha) b (List.mem_of_head? hb)

/-- An extent that shares no place with parts of one kind lies within a part of the other kind,
if of two parts that stand side by side one is of the first kind, and those are not empty. -/
theorem exists_of_apart {q : β -> Bool} {start : Nat} {l : List β} {r : Extent}
    (hchain : l.IsChain fun x y => q x = true ∨ q y = true)
    (hne : ∀ x ∈ l, q x = true -> text x ≠ []) (hstart : start ≤ r.start)
    (hstop : r.stop ≤ start + (l.flatMap text).length) (hlt : r.start < r.stop)
    (hapart : ∀ p ∈ located text start l, q p.part = true -> r.Apart (p.extent text)) :
    ∃ p ∈ located text start l, q p.part = false ∧ r.Within (p.extent text) := by
  induction l generalizing start with
  | nil =>
      simp only [List.flatMap_nil, List.length_nil, Nat.add_zero] at hstop
      omega
  | cons x rest ih =>
      rw [List.flatMap_cons, List.length_append, ← Nat.add_assoc] at hstop
      -- Behind the first part the rest is looked through in the same way.
      have hrest (hbehind : start + (text x).length ≤ r.start) :
          ∃ p ∈ located text start (x :: rest), q p.part = false ∧
            r.Within (p.extent text) := by
        rcases ih hchain.tail (fun y hy => hne y (List.mem_cons_of_mem x hy)) hbehind hstop
          (fun p hp => hapart p (List.mem_cons_of_mem _ hp)) with ⟨p, hp, hfree, hwithin⟩
        exact ⟨p, List.mem_cons_of_mem _ hp, hfree, hwithin⟩
      cases hx : q x with
      | true =>
          rcases hapart ⟨start, x⟩ List.mem_cons_self hx with hfront | hbehind
          · simp only [Located.extent] at hfront
            omega
          · exact hrest hbehind
      | false =>
          by_cases hbehind : start + (text x).length ≤ r.start
          · exact hrest hbehind
          by_cases hinside : r.stop ≤ start + (text x).length
          · exact ⟨⟨start, x⟩, List.mem_cons_self, hx, hstart, hinside⟩
          -- The extent would reach into the next part, which is of the first kind.
          cases rest with
          | nil =>
              simp only [List.flatMap_nil, List.length_nil, Nat.add_zero] at hstop
              omega
          | cons y rest =>
              have hy : q y = true := by
                rcases hchain.rel with h | h
                · rw [hx] at h
                  cases h
                · exact h
              have hnonempty : 0 < (text y).length :=
                List.length_pos_iff.2 (hne y (List.mem_cons_of_mem x List.mem_cons_self) hy)
              have hnext : (⟨start + (text x).length, y⟩ : Located β) ∈
                  located text start (x :: y :: rest) :=
                List.mem_cons_of_mem _ List.mem_cons_self
              rcases hapart _ hnext hy with hfront | hbehindNext
              · simp only [Located.extent] at hfront
                omega
              · simp only [Located.extent] at hbehindNext
                omega

/-- An extent that starts in front of parts and ends with one of them at the latest reaches
into each of those up to where it ends. -/
theorem exists_reached_of_lt {start : Nat} {l : List β} {r : Extent} (hlt : r.start < start)
    (hstop : r.stop ≤ start + (l.flatMap text).length) :
    exists inside back, l = inside ++ back ∧
      r.stop ≤ start + (inside.flatMap text).length ∧
      ∀ p ∈ located text start inside, ¬ r.Apart (p.extent text) := by
  induction l generalizing start with
  | nil =>
      refine ⟨[], [], rfl, hstop, ?_⟩
      intro p hp
      cases hp
  | cons x rest ih =>
      by_cases hdone : r.stop ≤ start
      · refine ⟨[], x :: rest, rfl, Nat.le_add_right_of_le hdone, ?_⟩
        intro p hp
        cases hp
      · rw [List.flatMap_cons, List.length_append, ← Nat.add_assoc] at hstop
        rcases ih (Nat.lt_add_right _ hlt) hstop with ⟨inside, back, rfl, hinside, hreached⟩
        refine ⟨x :: inside, back, rfl, ?_, ?_⟩
        · rw [List.flatMap_cons, List.length_append, ← Nat.add_assoc]
          exact hinside
        · intro p hp
          rcases List.mem_cons.1 hp with rfl | hp
          · simp only [Extent.Apart, Located.extent]
            omega
          · exact hreached p hp

/-- The parts that an extent reaches into stand one behind the other, and hold the extent. -/
theorem exists_reached {start : Nat} {l : List β} {r : Extent} (hlt : r.start < r.stop)
    (hstart : start ≤ r.start) (hstop : r.stop ≤ start + (l.flatMap text).length) :
    exists front inside back, l = front ++ inside ++ back ∧
      r.Within ⟨start + (front.flatMap text).length,
        start + ((front ++ inside).flatMap text).length⟩ ∧
      ∀ p ∈ located text (start + (front.flatMap text).length) inside,
        ¬ r.Apart (p.extent text) := by
  induction l generalizing start with
  | nil =>
      simp only [List.flatMap_nil, List.length_nil, Nat.add_zero] at hstop
      omega
  | cons x rest ih =>
      rw [List.flatMap_cons, List.length_append, ← Nat.add_assoc] at hstop
      by_cases hbehind : start + (text x).length ≤ r.start
      · rcases ih hbehind hstop with ⟨front, inside, back, rfl, hwithin, hreached⟩
        refine ⟨x :: front, inside, back, rfl, ?_, ?_⟩
        · simp only [Extent.Within, List.cons_append, List.flatMap_cons, List.length_append,
            ← Nat.add_assoc] at hwithin ⊢
          exact hwithin
        · simp only [List.flatMap_cons, List.length_append, ← Nat.add_assoc]
          exact hreached
      · rcases exists_reached_of_lt (Nat.lt_of_not_le hbehind) hstop with
          ⟨inside, back, rfl, hinside, hreached⟩
        refine ⟨[], x :: inside, back, rfl, ⟨hstart, ?_⟩, ?_⟩
        · rw [List.nil_append, List.flatMap_cons, List.length_append, ← Nat.add_assoc]
          exact hinside
        · intro p hp
          rcases List.mem_cons.1 hp with rfl | hp
          · simp only [Extent.Apart, Located.extent, List.flatMap_nil, List.length_nil,
              Nat.add_zero]
            omega
          · exact hreached p hp

end Text
end Folio
