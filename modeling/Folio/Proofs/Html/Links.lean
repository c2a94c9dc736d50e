import Folio.Html.Tag
import Folio.Proofs.Html.Standing

/-!
# Anchors that are opened in a text

An anchor is opened where an opening angle is followed by its letter and then by a blank or a
closing angle. Neither of these two is an opening angle, so a text can be cut in front of every
opening angle (`anchorsIn_append_open`), and a tag counts as it does alone (`anchorsIn_tag`).
-/

namespace Folio
namespace Html

open Text Pattern

/-- How often an anchor is opened in a text. -/
def anchorsIn : List Char -> Nat
  | [] => 0
  | c :: rest => anchorsIn rest + if opensAnchor (c :: rest) then 1 else 0

theorem anchorsIn_cons (c : Char) (rest : List Char) :
    anchorsIn (c :: rest) = anchorsIn rest + if opensAnchor (c :: rest) then 1 else 0 :=
  rfl

/-- The three characters that open an anchor. -/
structure IsAnchorStart (p : List Char) : Prop where
  intro ::
  exists_eq : exists a d, p = ['<', a, d] ∧ sameLetter 'a' a = true ∧
    (d = '>' ∨ isBlank d = true)

theorem IsAnchorStart.notMem_tail {p : List Char} (h : IsAnchorStart p) {c : Char}
    (hletter : sameLetter 'a' c = false) (hclose : c ≠ '>') (hblank : isBlank c = false) :
    c ∉ p.tail := by
  rcases h.exists_eq with ⟨a, d, rfl, ha, hd⟩
  rw [List.tail_cons, List.mem_cons, List.mem_singleton]
  rintro (rfl | rfl)
  · rw [hletter] at ha
    cases ha
  · rcases hd with hd | hd
    · exact hclose hd
    · rw [hblank] at hd
      cases hd

theorem IsAnchorStart.notMem_tail_open {p : List Char} (h : IsAnchorStart p) : '<' ∉ p.tail :=
  h.notMem_tail (by decide) (by decide) (by decide)

theorem opensAnchor_eq (s : List Char) :
    opensAnchor s =
      match s with
      | c :: a :: d :: _ => c = '<' && sameLetter 'a' a && (d = '>' || isBlank d)
      | _ => false := by
  have hrun : opensAnchor s =
      ((Pattern.sequence [exactly '<', letter 'a', char fun c => c = '>' || isBlank c]).run s
        some).isSome := rfl
  rw [hrun]
  match s with
  | [] => rfl
  | [c] => simp [Pattern.sequence, exactly, letter, Pattern.run]
  | [c, a] => simp [Pattern.sequence, exactly, letter, Pattern.run]
  | c :: a :: d :: rest =>
      simp [Pattern.sequence, exactly, letter, Pattern.run, apply_ite Option.isSome, Bool.and_assoc]

theorem opensAnchor_iff {s : List Char} :
    opensAnchor s = true ↔ exists p, IsAnchorStart p ∧ startsWith p s = true := by
  rw [opensAnchor_eq]
  constructor
  · intro h
    split at h
    · next c a d rest =>
        rw [Bool.and_eq_true, Bool.and_eq_true, Bool.or_eq_true, decide_eq_true_iff,
          decide_eq_true_iff] at h
        rcases h with ⟨⟨rfl, ha⟩, hd⟩
        exact ⟨['<', a, d], ⟨a, d, rfl, ha, hd⟩, startsWith_iff.2 ⟨rest, rfl⟩⟩
    · cases h
  · rintro ⟨p, ⟨a, d, rfl, ha, hd⟩, hstart⟩
    rcases startsWith_iff.1 hstart with ⟨rest, rfl⟩
    simpa [ha] using hd

/-- Texts that start with the same marks open an anchor both or neither. -/
theorem opensAnchor_congr {s t : List Char}
    (h : forall p, IsAnchorStart p -> startsWith p s = startsWith p t) :
    opensAnchor s = opensAnchor t := by
  rw [Bool.eq_iff_iff, opensAnchor_iff, opensAnchor_iff]
  constructor
  · rintro ⟨p, hp, hstart⟩
    exact ⟨p, hp, (h p hp).symm.trans hstart⟩
  · rintro ⟨p, hp, hstart⟩
    exact ⟨p, hp, (h p hp).trans hstart⟩

theorem opensAnchor_cons_of_ne {c : Char} (h : c ≠ '<') (s : List Char) :
    opensAnchor (c :: s) = false := by
  rw [← Bool.not_eq_true, opensAnchor_iff]
  rintro ⟨p, ⟨a, d, rfl, -⟩, hstart⟩
  rw [startsWith_cons_of_ne h] at hstart
  cases hstart

/-!
## Cutting a text
-/

theorem anchorsIn_append_open (s x : List Char) :
    anchorsIn (s ++ '<' :: x) = anchorsIn s + anchorsIn ('<' :: x) := by
  induction s with
  | nil => exact (Nat.zero_add _).symm
  | cons c s ih =>
      have hstart : opensAnchor (c :: (s ++ '<' :: x)) = opensAnchor (c :: s) :=
        opensAnchor_congr fun p hp => startsWith_cons_append hp.notMem_tail_open
      rw [List.cons_append, anchorsIn_cons, ih, hstart, anchorsIn_cons c s]
      omega

theorem anchorsIn_append_of_notMem {s : List Char} (h : '<' ∉ s) (x : List Char) :
    anchorsIn (s ++ x) = anchorsIn x := by
  induction s with
  | nil => rfl
  | cons c s ih =>
      rw [List.mem_cons, not_or] at h
      rw [List.cons_append, anchorsIn_cons, ih h.2, opensAnchor_cons_of_ne (Ne.symm h.1)]
      rfl

/-- What follows a tag does not change whether the tag opens an anchor. -/
theorem opensAnchor_tag {t : List Char} (ht : IsTag t) (x : List Char) :
    opensAnchor (t ++ x) = opensAnchor t := by
  rcases ht with ⟨inner, rfl, -⟩
  apply opensAnchor_congr
  rintro p ⟨a, d, rfl, ha, -⟩
  rw [List.cons_append, startsWith_cons_self, startsWith_cons_self]
  match inner with
  | [] =>
      have hne : a ≠ '>' := by
        rintro rfl
        exact absurd ha (by decide)
      rw [List.nil_append, List.cons_append, startsWith_cons_of_ne (Ne.symm hne),
        startsWith_cons_of_ne (Ne.symm hne)]
  | [b] => simp [startsWith, dropPrefix?, apply_ite Option.isSome]
  | b :: e :: inner => simp [startsWith, dropPrefix?, apply_ite Option.isSome]

/-- A tag opens one anchor or none, and what follows it opens as many as alone. -/
theorem anchorsIn_tag {t : List Char} (ht : IsTag t) (x : List Char) :
    anchorsIn (t ++ x) = anchorsIn x + if opensAnchor t then 1 else 0 := by
  rw [← opensAnchor_tag ht x]
  rcases ht with ⟨inner, rfl, hinner⟩
  have hinside : '<' ∉ inner ++ ['>'] := by simp [hinner.flat.1]
  rw [List.cons_append, anchorsIn_cons, anchorsIn_append_of_notMem hinside]

theorem anchorsIn_append_tag {t : List Char} (ht : IsTag t) (s x : List Char) :
    anchorsIn (s ++ (t ++ x)) = anchorsIn s + anchorsIn x + if opensAnchor t then 1 else 0 := by
  rw [Nat.add_assoc, ← anchorsIn_tag ht]
  rcases ht with ⟨inner, rfl, -⟩
  exact anchorsIn_append_open s _

/-!
## Texts that open no anchor
-/

/-- Whether a text opens no anchor, whatever follows it. -/
def Unlinked (t : List Char) : Prop :=
  forall x, anchorsIn (t ++ x) = anchorsIn x

theorem Unlinked.append {a b : List Char} (ha : Unlinked a) (hb : Unlinked b) :
    Unlinked (a ++ b) := by
  intro x
  rw [List.append_assoc, ha, hb]

theorem unlinked_of_notMem {s : List Char} (h : '<' ∉ s) : Unlinked s :=
  anchorsIn_append_of_notMem h

theorem unlinked_tag {t : List Char} (ht : IsTag t) (h : opensAnchor t = false) : Unlinked t := by
  intro x
  rw [anchorsIn_tag ht, h]
  rfl

end Html
end Folio
