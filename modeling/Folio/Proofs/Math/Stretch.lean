import Folio.Math.Code

/-!
# Stretches judged where they stand

A stretch is judged by what it holds and by what stands in front of it and behind it. Code is
judged as a whole, prose at each of its places. Prose grows by one character at a time, so a
judgement of prose that is kept by one more character is kept by all of them
(`laid_foldr_consProse`).
-/

namespace Folio
namespace Math

/-- Whether a stretch fits between two texts: `code` judges code, and `clear` the places of
prose. -/
def Stretch.Fits (clear : List Char -> List Char -> Prop)
    (code : List Char -> Stretch -> List Char -> Prop) (before after : List Char) :
    Stretch -> Prop
  | .prose t => forall a b, t = a ++ b -> b ≠ [] -> clear (before ++ a) (b ++ after)
  | x => code before x after

/-- Whether each of the stretches behind a text fits where it stands. -/
def Laid (clear : List Char -> List Char -> Prop)
    (code : List Char -> Stretch -> List Char -> Prop) (before : List Char) :
    List Stretch -> Prop
  | [] => True
  | x :: rest =>
      x.Fits clear code before (rest.flatMap Stretch.text) ∧
        Laid clear code (before ++ x.text) rest

variable {clear : List Char -> List Char -> Prop}
  {code : List Char -> Stretch -> List Char -> Prop} {before : List Char}

theorem laid_append {l m : List Stretch} (h : Laid clear code before (l ++ m)) :
    Laid clear code (before ++ l.flatMap Stretch.text) m := by
  induction l generalizing before with
  | nil => rwa [List.flatMap_nil, List.append_nil]
  | cons x l ih =>
      rw [List.flatMap_cons, ← List.append_assoc]
      exact ih h.2

/-- Each stretch fits between those in front of it and those behind it. -/
theorem Laid.fits {l m : List Stretch} {x : Stretch}
    (h : Laid clear code before (l ++ x :: m)) :
    x.Fits clear code (before ++ l.flatMap Stretch.text) (m.flatMap Stretch.text) :=
  (laid_append h).1

theorem fits_prose_singleton {c : Char} {after : List Char} (h : clear before (c :: after)) :
    (Stretch.prose [c]).Fits clear code before after := by
  intro a b hab hb
  rcases List.singleton_eq_append_iff.1 hab with ⟨rfl, rfl⟩ | ⟨rfl, rfl⟩
  · rw [List.append_nil]
    exact h
  · exact absurd rfl hb

theorem fits_prose_cons {c : Char} {t after : List Char}
    (hc : clear before (c :: (t ++ after)))
    (ht : (Stretch.prose t).Fits clear code (before ++ [c]) after) :
    (Stretch.prose (c :: t)).Fits clear code before after := by
  intro a b hab hb
  cases a with
  | nil =>
      rw [List.nil_append] at hab
      rwa [← hab, List.append_nil]
  | cons d a =>
      cases hab
      rw [List.append_cons]
      exact ht a b rfl hb

/-- Prose may grow by a character in front of it, if its place is clear. -/
theorem laid_consProse {c : Char} {l : List Stretch}
    (hc : clear before (c :: l.flatMap Stretch.text))
    (h : Laid clear code (before ++ [c]) l) : Laid clear code before (consProse c l) := by
  cases l with
  | nil => exact ⟨fits_prose_singleton hc, trivial⟩
  | cons x rest =>
      cases x with
      | prose t =>
          refine ⟨fits_prose_cons hc h.1, ?_⟩
          rw [Stretch.text, List.append_cons]
          exact h.2
      | fence t | span t => exact ⟨fits_prose_singleton hc, h⟩

theorem laid_foldr_consProse {s : List Char} {l : List Stretch}
    (hs : forall a b, s = a ++ b -> b ≠ [] ->
      clear (before ++ a) (b ++ l.flatMap Stretch.text))
    (h : Laid clear code (before ++ s) l) : Laid clear code before (s.foldr consProse l) := by
  induction s generalizing before with
  | nil => rwa [List.append_nil] at h
  | cons c s ih =>
      rw [List.foldr_cons]
      apply laid_consProse
      · rw [flatMap_text_foldr_consProse]
        have hfirst := hs [] (c :: s) rfl (List.cons_ne_nil c s)
        rwa [List.append_nil] at hfirst
      · apply ih
        · intro a b hab hb
          rw [← List.append_cons]
          exact hs (c :: a) b (congrArg (c :: ·) hab) hb
        · rwa [← List.append_cons]

end Math
end Folio
