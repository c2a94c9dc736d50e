import Folio.Proofs.Math.Substitution

/-!
# What is left of tokens

Math is put back where its token stands as it is. A text of the same letters in another case
stays where it stands, and none is added, so the restored text holds a token in some case exactly
when it stood in another case before (`occursAnyCase_restoreWith`).
-/

namespace Folio
namespace Math

open Text

/-- A place of a token does not reach into a text of the letters of a token in another case, nor
does it hold one. -/
theorem clear_place_of_sameLetters {n i j : Nat} {w place : List Char}
    (hw : SameLetters w (tokenOf (stemOf n) i)) (hne : w ≠ tokenOf (stemOf n) j)
    (hplace : IsPlace (tokenOf (stemOf n) j) place) : Clear w place ∧ Clear place w := by
  have htoken := clear_of_sameLetters hw (SameLetters.refl (tokenOf (stemOf n) j)) hne
  rcases hplace with rfl | ⟨before, after, hbefore, hafter, rfl⟩
  · exact ⟨htoken, clear_of_sameLetters (SameLetters.refl _) hw hne.symm⟩
  · have hblank : forall s, allBlank s = true -> Clear w s := fun s hs =>
      clear_of_notMem_letters hw (notMem_of_allBlank (by decide) hs)
        (notMem_of_allBlank (by decide) hs)
    constructor
    · refine (clear_of_clear_start hw (by decide)).append ?_
      refine (hblank before hbefore).append ?_
      refine htoken.append ?_
      exact (hblank after hafter).append (clear_of_clear_start hw (by decide))
    · exact clear_of_notMem (notMem_of_sameLetters hw (by decide))

/-- A text of the letters of a token in another case is neither added nor taken away, if no markup
holds it. -/
theorem Inert.occurs_substitute {n : Nat} {markup : Segment -> List Char}
    {segments : List Segment} (h : Inert n markup segments) {t : Segment} (ht : t ∈ segments)
    {w : List Char} (hw : SameLetters w t.token) (hne : w ≠ t.token)
    (hfree : ∀ s ∈ segments, occurs w (markup s) = false) (text : List Char) :
    occurs w (substitute markup segments text) = occurs w text := by
  rcases h.numbered t ht with ⟨i, hi⟩
  rw [hi] at hw hne
  rw [h.substitute_eq_apply]
  apply Rule.occurs_apply _ (ne_nil_of_sameLetters hw)
  · intro old new hturns
    rcases h.isPlace_of_turns hturns with ⟨s, hs, hplace, -⟩
    rcases h.numbered s hs with ⟨j, hj⟩
    rw [hj] at hplace
    refine clear_place_of_sameLetters hw ?_ hplace
    -- Tokens of two segments differ in their numbers, whatever their case.
    intro hwj
    have hsame : lowered (tokenOf (stemOf n) j) = lowered (tokenOf (stemOf n) i) := hwj ▸ hw
    have hij : i = j := by
      refine eq_of_meets_lowered (n := n) ?_
      rw [hsame]
      exact Or.inl (List.prefix_refl _)
    exact hne (hij ▸ hwj)
  · intro old new hturns
    rcases h.isPlace_of_turns hturns with ⟨s, hs, -, rfl⟩
    rcases (h.isElement s hs).closes with ⟨front, c, hends, -⟩
    rcases (h.isElement s hs).opens with ⟨d, rest, hopens, -⟩
    constructor
    · have hlast : (markup s).getLast? = some '>' := by
        rw [hends]
        simp
      exact clear_of_not_occurs (hfree s hs) hlast (notMem_of_sameLetters hw (by decide))
    · rw [hopens]
      exact clear_of_notMem fun hmem =>
        notMem_of_sameLetters hw (by decide) (List.mem_of_mem_tail hmem)

/-!
## The segments of a source
-/

/-- Once math is put back, a text holds a token in some letter case exactly if it held one in a
case that is not its own. -/
theorem occursAnyCase_restoreWith {answer : Segment -> Outcome} {source : List Char}
    (h : ∀ s ∈ (extract source).segments, ∀ t ∈ (extract source).segments,
      occursAnyCase t.token (s.markupFor (answer s)) = false)
    {t : Segment} (ht : t ∈ (extract source).segments) (html : List Char) :
    occursAnyCase t.token (restoreWith answer (extract source).segments html) = false ↔
      KeepsCase t.token html := by
  have hnone : HoldsNoToken answer source := fun s hs t ht =>
    not_occursAnyCase_iff.1 (h s hs t ht) _ (SameLetters.refl _)
  rcases exists_inert_extract source with ⟨n, hinert⟩
  have hself := hinert answer hnone
  rw [restoreWith_eq_substitute hnone (List.Perm.refl _), not_occursAnyCase_iff, keepsCase_iff]
  refine forall₂_congr fun w hw => ?_
  by_cases hne : w = t.token
  · rw [hne]
    simp only [hself.not_occurs_substitute ht, implies_true]
  · rw [hself.occurs_substitute ht hw hne fun s hs => not_occursAnyCase_iff.1 (h s hs t ht) w hw]
    simp only [hne, imp_false, Bool.not_eq_true]

theorem occurs_source_of_mem_extract {source : List Char} {s : Segment}
    (h : s ∈ (extract source).segments) : occurs s.source source = true := by
  have := occurs_source_of_mem_numbered h
  rwa [flatMap_source_pieces] at this

/-- What holds the stem of tokens in no case holds no token in any. -/
theorem not_occursAnyCase_token {source s : List Char} {t : Segment}
    (ht : t ∈ (extract source).segments) (h : occursAnyCase tokenStem s = false) :
    occursAnyCase t.token s = false := by
  rcases exists_recoverable_extract source with ⟨n, hrecoverable⟩
  rcases hrecoverable.numbered t ht with ⟨i, hi⟩
  rw [hi, tokenOf, stemOf, List.append_assoc, List.append_assoc]
  exact not_occursAnyCase_append h

/-- Math that is left to the page holds a token in no case, if the source holds no stem in any. -/
theorem not_occursAnyCase_deferred {source : List Char} (h : occursAnyCase tokenStem source = false)
    {s t : Segment} (hs : s ∈ (extract source).segments) (ht : t ∈ (extract source).segments) :
    occursAnyCase t.token (s.markupFor (deferred s.expression s.display)) = false := by
  rw [not_occursAnyCase_iff]
  intro w hw
  have hsource := not_occursAnyCase_iff.1 (not_occursAnyCase_token ht h) w hw
  rcases occurs_iff.1 (occurs_source_of_mem_extract hs) with ⟨before, after, hsplit⟩
  rw [hsplit] at hsource
  have hexpression : occurs w s.expression = false :=
    not_occurs_expression (not_occurs_of_append_right (not_occurs_of_append_left hsource))
  rcases exists_recoverable_extract source with ⟨n, hrecoverable⟩
  rcases hrecoverable.numbered t ht with ⟨i, hi⟩
  rw [hi] at hw
  exact (occurs_deferred hw s.expression s.display).trans (not_occurs_trim hexpression)

theorem occursAnyCase_restore {source : List Char} (h : occursAnyCase tokenStem source = false)
    {t : Segment} (ht : t ∈ (extract source).segments) (html : List Char) :
    occursAnyCase t.token (restore (some deferred) (extract source).segments html) = false ↔
      KeepsCase t.token html :=
  occursAnyCase_restoreWith (fun _ hs _ ht => not_occursAnyCase_deferred h hs ht) ht html

end Math
end Folio
