import Folio.Html.Escape
import Folio.Proofs.Math.Token

/-!
# Tags outside of comments

A text is read character by character; a comment is open from its opening mark up to its
closing mark. `scan` counts how often a tag stands in the text while none is open. Other
tags, and text without angles between tags, count for nothing and open and close no comment
(`Neutral`), and a text can be cut in front of every tag (`scan_append_open`).
-/

namespace Folio
namespace Html

open Text

/-- Whether a comment is open behind the first character of a text, if `inside` tells whether
one is open in front of it. -/
def commentAfter (inside : Bool) (s : List Char) : Bool :=
  if inside then !startsWith "-->".toList s else startsWith "<!--".toList s

/-- How often `w` stands in a text outside of comments, and whether a comment is open at its
end. -/
def scan (w : List Char) (inside : Bool) : List Char -> Nat × Bool
  | [] => (0, inside)
  | c :: rest =>
      let others := scan w (commentAfter inside (c :: rest)) rest
      (others.1 + (if !inside && startsWith w (c :: rest) then 1 else 0), others.2)

/-- How often `w` stands in a text outside of comments. -/
def standings (w s : List Char) : Nat :=
  (scan w false s).1

/-- Whether a comment is open at the end of a text. -/
def endsInComment (s : List Char) : Bool :=
  (scan [] false s).2

/-- Whether a text holds no angles. -/
abbrev Flat (s : List Char) : Prop :=
  '<' ∉ s ∧ '>' ∉ s

/-- What may stand between the angles of a tag: no angles, and nothing that would make a mark
of a comment with one of them. -/
structure Inner (s : List Char) : Prop where
  flat : Flat s
  head : s.head? ≠ some '!'
  last : s.getLast? ≠ some '-'

instance (s : List Char) : Decidable (Inner s) :=
  decidable_of_iff (Flat s ∧ s.head? ≠ some '!' ∧ s.getLast? ≠ some '-')
    ⟨fun h => ⟨h.1, h.2.1, h.2.2⟩, fun h => ⟨h.flat, h.head, h.last⟩⟩

/-- Whether a text is a single tag. -/
def IsTag (t : List Char) : Prop :=
  exists inner, t = '<' :: (inner ++ ['>']) ∧ Inner inner

/-!
## Text without angles
-/

theorem Flat.append {a b : List Char} (ha : Flat a) (hb : Flat b) : Flat (a ++ b) := by
  simp [Flat, ha, hb]

theorem flat_flatMap {f : Char -> List Char} (hf : forall c, Flat (f c)) (s : List Char) :
    Flat (s.flatMap f) := by
  constructor
  · intro hmem
    rcases List.mem_flatMap.1 hmem with ⟨c, -, hc⟩
    exact (hf c).1 hc
  · intro hmem
    rcases List.mem_flatMap.1 hmem with ⟨c, -, hc⟩
    exact (hf c).2 hc

theorem Inner.append {a b : List Char} (ha : Inner a) (hb : Inner b) : Inner (a ++ b) where
  flat := ha.flat.append hb.flat
  head := by
    rw [List.head?_append]
    cases a with
    | nil => exact hb.head
    | cons c a => exact ha.head
  last := by
    rw [List.getLast?_append]
    cases hlast : b.getLast? with
    | none => exact ha.last
    | some c =>
        have hc := hb.last
        rw [hlast] at hc
        exact hc

theorem inner_nil : Inner [] :=
  ⟨by decide, by decide, by decide⟩

theorem inner_flatMap {β : Type} {f : β -> List Char} {l : List β} (h : ∀ x ∈ l, Inner (f x)) :
    Inner (l.flatMap f) := by
  induction l with
  | nil => exact inner_nil
  | cons x rest ih =>
      rw [List.flatMap_cons]
      exact (h x List.mem_cons_self).append (ih fun y hy => h y (List.mem_cons_of_mem x hy))

theorem flat_digitsOf (n : Nat) : Flat (Number.digitsOf n) := by
  constructor
  · intro hmem
    exact absurd (Math.isDigit_of_mem_digitsOf hmem) (by decide)
  · intro hmem
    exact absurd (Math.isDigit_of_mem_digitsOf hmem) (by decide)

theorem flat_intText (i : Int) : Flat (Number.intText i) := by
  unfold Number.intText
  split
  · have hsign : Flat ['-'] := by decide
    exact hsign.append (flat_digitsOf i.natAbs)
  · exact flat_digitsOf i.natAbs

theorem flat_textChar (c : Char) : Flat (textChar c) := by
  unfold textChar
  split
  · decide
  · split
    · decide
    · split
      · decide
      · next hopen hclose =>
          constructor
          · simpa [eq_comm] using hopen
          · simpa [eq_comm] using hclose

theorem flat_quotedChar (c : Char) : Flat (quotedChar c) := by
  unfold quotedChar
  split
  · decide
  · exact flat_textChar c

theorem flat_attributeChar (c : Char) : Flat (attributeChar c) := by
  unfold attributeChar
  split
  · decide
  · exact flat_quotedChar c

theorem flat_escapeText (s : List Char) : Flat (escapeText s) :=
  flat_flatMap flat_textChar s

theorem flat_escapeQuoted (s : List Char) : Flat (escapeQuoted s) :=
  flat_flatMap flat_quotedChar s

theorem flat_escapeAttribute (s : List Char) : Flat (escapeAttribute s) :=
  flat_flatMap flat_attributeChar s

/-!
## Single characters
-/

theorem startsWith_cons_of_ne {c d : Char} {w s : List Char} (h : c ≠ d) :
    startsWith (d :: w) (c :: s) = false := by
  rw [startsWith, dropPrefix?, if_neg (Ne.symm h)]
  rfl

theorem startsWith_cons_self (c : Char) (w s : List Char) :
    startsWith (c :: w) (c :: s) = startsWith w s := by
  rw [startsWith, dropPrefix?, if_pos rfl]
  rfl

theorem startsWith_append_cons {p : List Char} {d : Char} (hp : d ∉ p) (s x : List Char) :
    startsWith p (s ++ d :: x) = startsWith p s := by
  induction p generalizing s with
  | nil => rw [startsWith, startsWith, dropPrefix?_nil, dropPrefix?_nil]; rfl
  | cons a p ih =>
      rw [List.mem_cons, not_or] at hp
      cases s with
      | nil => exact startsWith_cons_of_ne hp.1
      | cons c s =>
          rw [List.cons_append]
          by_cases hc : c = a
          · rw [hc, startsWith_cons_self, startsWith_cons_self, ih hp.2]
          · rw [startsWith_cons_of_ne hc, startsWith_cons_of_ne hc]

theorem startsWith_cons_append {p : List Char} {c d : Char} (hp : d ∉ p.tail) {s x : List Char} :
    startsWith p (c :: (s ++ d :: x)) = startsWith p (c :: s) := by
  cases p with
  | nil => rw [startsWith, startsWith, dropPrefix?_nil, dropPrefix?_nil]; rfl
  | cons a p =>
      by_cases hc : c = a
      · rw [hc, startsWith_cons_self, startsWith_cons_self]
        exact startsWith_append_cons hp s x
      · rw [startsWith_cons_of_ne hc, startsWith_cons_of_ne hc]

variable {w : List Char}

theorem scan_false_cons (hw : IsTag w) {c : Char} (hc : c ≠ '<') (s : List Char) :
    scan w false (c :: s) = scan w false s := by
  rcases hw with ⟨inner, rfl, -⟩
  rw [scan, commentAfter, startsWith_cons_of_ne hc]
  simp only [Bool.false_eq_true, if_false]
  have hmark : startsWith "<!--".toList (c :: s) = false := startsWith_cons_of_ne hc
  rw [hmark]
  rfl

theorem scan_false_append (hw : IsTag w) {s : List Char} (hs : '<' ∉ s) (x : List Char) :
    scan w false (s ++ x) = scan w false x := by
  induction s with
  | nil => rfl
  | cons c s ih =>
      rw [List.mem_cons, not_or] at hs
      rw [List.cons_append, scan_false_cons hw (Ne.symm hs.1), ih hs.2]

theorem scan_true_cons {c : Char} {s : List Char}
    (h : startsWith "-->".toList (c :: s) = false) : scan w true (c :: s) = scan w true s := by
  rw [scan, commentAfter, h]
  rfl

/-- A text without closing angles ends no comment, unless it goes on with one. -/
theorem scan_true_append {s x : List Char} {d : Char} (hs : '>' ∉ s) (hd : d ≠ '-')
    (hend : d = '>' -> s.getLast? ≠ some '-') :
    scan w true (s ++ d :: x) = scan w true (d :: x) := by
  induction s with
  | nil => rfl
  | cons c s ih =>
      rw [List.mem_cons, not_or] at hs
      have hrest : d = '>' -> s.getLast? ≠ some '-' := by
        intro hangle hlast
        apply hend hangle
        rw [List.getLast?_cons, hlast]
        rfl
      rw [List.cons_append, scan_true_cons, ih hs.2 hrest]
      by_cases hc : c = '-'
      · rw [hc]
        refine (startsWith_cons_self '-' ['-', '>'] _).trans ?_
        match s, hs.2, hend with
        | [], _, _ => exact startsWith_cons_of_ne hd
        | a :: s, hs, hend =>
            by_cases ha : a = '-'
            · rw [ha]
              refine (startsWith_cons_self '-' ['>'] _).trans ?_
              match s, hs, hend with
              | [], _, hend =>
                  apply startsWith_cons_of_ne
                  intro hangle
                  exact hend hangle (by rw [ha]; rfl)
              | b :: s, hs, _ =>
                  apply startsWith_cons_of_ne
                  rintro rfl
                  exact hs (List.mem_cons_of_mem a List.mem_cons_self)
            · exact startsWith_cons_of_ne ha
      · exact startsWith_cons_of_ne hc

/-!
## Tags
-/

theorem IsTag.eq_of_startsWith {t s : List Char} (hw : IsTag w) (ht : IsTag t)
    (h : startsWith w (t ++ s) = true) : w = t := by
  rcases hw with ⟨a, rfl, ha⟩
  rcases ht with ⟨b, rfl, hb⟩
  rcases startsWith_iff.1 h with ⟨rest, hrest⟩
  have hmeets := (meets_cons_cons.1 (meets_of_append_eq hrest.symm)).2
  rw [Math.eq_of_meets_closed ha.flat.2 hb.flat.2 hmeets]

/-- A tag counts outside of comments if it is the one that is counted, and neither opens nor
closes a comment. -/
theorem scan_tag (hw : IsTag w) {t : List Char} (ht : IsTag t) (inside : Bool) (x : List Char) :
    scan w inside (t ++ x) =
      ((scan w inside x).1 + (if !inside && t = w then 1 else 0), (scan w inside x).2) := by
  have hself : startsWith w (t ++ x) = decide (t = w) := by
    rw [Bool.eq_iff_iff, decide_eq_true_iff]
    constructor
    · intro h
      exact (hw.eq_of_startsWith ht h).symm
    · rintro rfl
      exact startsWith_iff.2 ⟨x, rfl⟩
  rcases ht with ⟨inner, rfl, hinner⟩
  -- Outside a comment only the first angle could open one; inside one the last angle closes
  -- none, since no hyphen precedes it.
  cases inside with
  | false =>
      have hmark : startsWith "<!--".toList ('<' :: (inner ++ ['>']) ++ x) = false := by
        refine (startsWith_cons_self '<' ['!', '-', '-'] _).trans ?_
        cases inner with
        | nil => exact startsWith_cons_of_ne (by decide)
        | cons c inner => exact startsWith_cons_of_ne fun hc => hinner.head (by rw [hc]; rfl)
      have hrest : scan w false (inner ++ ['>'] ++ x) = scan w false x := by
        apply scan_false_append hw
        simp [hinner.flat.1]
      rw [List.cons_append] at hself hmark ⊢
      rw [scan, commentAfter, if_neg Bool.false_ne_true, hmark, hrest, hself]
  | true =>
      rw [List.cons_append, scan_true_cons (startsWith_cons_of_ne (by decide)), List.append_assoc,
        List.singleton_append, scan_true_append hinner.flat.2 (by decide) (fun _ => hinner.last),
        scan_true_cons (startsWith_cons_of_ne (by decide))]
      rfl

/-- A text can be cut in front of an opening angle. -/
theorem scan_append_open (hw : IsTag w) (inside : Bool) (s x : List Char) :
    scan w inside (s ++ '<' :: x) =
      ((scan w (scan w inside s).2 ('<' :: x)).1 + (scan w inside s).1,
        (scan w (scan w inside s).2 ('<' :: x)).2) := by
  have htag : '<' ∉ w.tail := by
    rcases hw with ⟨inner, rfl, hinner⟩
    simp [hinner.flat.1]
  induction s generalizing inside with
  | nil => simp [scan]
  | cons c s ih =>
      have hafter : commentAfter inside (c :: (s ++ '<' :: x)) = commentAfter inside (c :: s) := by
        rw [commentAfter, commentAfter, startsWith_cons_append (by decide),
          startsWith_cons_append (by decide)]
      have hfirst : scan w inside (c :: s) =
          ((scan w (commentAfter inside (c :: s)) s).1 +
            (if !inside && startsWith w (c :: s) then 1 else 0),
            (scan w (commentAfter inside (c :: s)) s).2) := rfl
      rw [List.cons_append, scan, hafter, ih, startsWith_cons_append htag, hfirst]
      simp only [Nat.add_assoc]

/-- Behind a text with a tag, the tag counts if no comment is open in front of it. -/
theorem scan_append_tag (hw : IsTag w) {t : List Char} (ht : IsTag t) (inside : Bool)
    (s x : List Char) :
    scan w inside (s ++ t ++ x) =
      ((scan w (scan w inside s).2 x).1 + (scan w inside s).1 +
        (if !(scan w inside s).2 && t = w then 1 else 0), (scan w (scan w inside s).2 x).2) := by
  have htag := scan_tag hw ht (scan w inside s).2 x
  rcases ht with ⟨inner, rfl, -⟩
  rw [List.append_assoc, List.cons_append, scan_append_open hw, ← List.cons_append, htag,
    Nat.add_right_comm]

/-- Whether a comment is open does not depend on what is counted. -/
theorem scan_snd (v : List Char) (inside : Bool) (s : List Char) :
    (scan v inside s).2 = (scan w inside s).2 := by
  induction s generalizing inside with
  | nil => rfl
  | cons c s ih => exact ih _

/-!
## What counts for nothing
-/

/-- Whether a text counts for nothing, and opens and closes no comment, whatever follows. -/
def Neutral (w t : List Char) : Prop :=
  forall inside x, scan w inside (t ++ x) = scan w inside x

theorem Neutral.append {a b : List Char} (ha : Neutral w a) (hb : Neutral w b) :
    Neutral w (a ++ b) := by
  intro inside x
  rw [List.append_assoc, ha, hb]

theorem neutral_tag (hw : IsTag w) {t : List Char} (ht : IsTag t) (hne : t ≠ w) :
    Neutral w t := by
  intro inside x
  rw [scan_tag hw ht, decide_eq_false hne, Bool.and_false]
  rfl

theorem neutral_of_notMem (hw : IsTag w) {s : List Char} (hopen : '<' ∉ s) (hdash : '-' ∉ s) :
    Neutral w s := by
  intro inside x
  cases inside with
  | false => exact scan_false_append hw hopen x
  | true =>
      induction s with
      | nil => rfl
      | cons c s ih =>
          rw [List.mem_cons, not_or] at hopen hdash
          rw [List.cons_append, scan_true_cons (startsWith_cons_of_ne (Ne.symm hdash.1)),
            ih hopen.2 hdash.2]

/-- Text without angles counts for nothing in front of a tag that does not either. -/
theorem Neutral.text (hw : IsTag w) {s t : List Char} (hs : Flat s)
    (ht : Neutral w ('<' :: t)) : Neutral w (s ++ '<' :: t) := by
  intro inside x
  rw [← ht inside x, List.append_assoc]
  cases inside with
  | false => exact scan_false_append hw hs.1 _
  | true => exact scan_true_append hs.2 (by decide) (fun h => absurd h (by decide))

end Html
end Folio
