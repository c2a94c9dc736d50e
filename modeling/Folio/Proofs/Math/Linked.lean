import Folio.Proofs.Html.Links
import Folio.Proofs.Math.Contained
import Folio.Proofs.Math.Unseen

/-!
# Math beside links

Math that is left to the page opens no anchor, and no place of a token starts inside the
characters that open one. So a text opens as many anchors once math is put back as it did
before (`anchorsIn_restore`).
-/

namespace Folio

open Text Html

namespace Math

theorem unlinked_place {place : List Char} {n i : Nat}
    (h : IsPlace (tokenOf (stemOf n) i) place) : Unlinked place := by
  have htoken : '<' ∉ tokenOf (stemOf n) i := notMem_tokenOf (by decide) n i
  have hblank : forall blanks, allBlank blanks = true -> '<' ∉ blanks := fun blanks =>
    notMem_of_allBlank (by decide)
  have hfirst : IsTag "<p>".toList := ⟨['p'], rfl, by decide, by decide, by decide⟩
  have hlast : IsTag "</p>".toList := ⟨['/', 'p'], rfl, by decide, by decide, by decide⟩
  rcases h with rfl | ⟨before, after, hbefore, hafter, rfl⟩
  · exact unlinked_of_notMem htoken
  · have hinside : '<' ∉ before ++ tokenOf (stemOf n) i ++ after := by
      simp [htoken, hblank before hbefore, hblank after hafter]
    have hall := ((unlinked_tag hfirst (by decide)).append (unlinked_of_notMem hinside)).append
      (unlinked_tag hlast (by decide))
    simpa [loneText] using hall

theorem unlinked_wrapper (display : Bool) :
    Unlinked ('<' :: (wrapperName display ++ wrapperAttributes display ++ ['>'])) ∧
      Unlinked ('<' :: ('/' :: wrapperName display ++ ['>'])) := by
  cases display with
  | false =>
      exact ⟨unlinked_tag ⟨_, rfl, by decide⟩ (by decide),
        unlinked_tag ⟨_, rfl, by decide⟩ (by decide)⟩
  | true =>
      exact ⟨unlinked_tag ⟨_, rfl, by decide⟩ (by decide),
        unlinked_tag ⟨_, rfl, by decide⟩ (by decide)⟩

theorem unlinked_deferred (expression : List Char) (display : Bool) :
    Unlinked ((deferred expression display).markupFor expression display) := by
  have hcontent : Unlinked (escapeText (delimited (trim expression) display)) :=
    unlinked_of_notMem (flat_escapeText _).1
  have hall := ((unlinked_wrapper display).1.append hcontent).append (unlinked_wrapper display).2
  rw [deferred_eq, Outcome.markupFor, wrap_eq, elementOf]
  simpa using hall

end Math

namespace Text

theorem Rule.Marked.opensAnchor_apply {r : Rule} (h : r.Marked) (c : Char) (s : List Char) :
    opensAnchor (c :: r.apply s) = opensAnchor (c :: s) :=
  opensAnchor_congr fun _ hp =>
    h.startsWith_cons_apply hp.notMem_tail_open (hp.notMem_tail (by decide) (by decide) (by decide))
      c s

/-- A rule that turns texts that open no anchor into such texts neither opens nor hides any. -/
theorem Rule.anchorsIn_apply {r : Rule} (hmarked : r.Marked)
    (h : forall old new, r.Turns old new -> Unlinked old ∧ Unlinked new) (s : List Char) :
    anchorsIn (r.apply s) = anchorsIn s := by
  induction s using r.scan with
  | nil => rfl
  | hit old new rest hold ih =>
      rcases h old new hold with ⟨hplace, hnew⟩
      rw [r.apply_append_of_turns hold, hnew, hplace, ih]
  | step c rest hnone ih =>
      rw [r.apply_cons_of_none hnone, anchorsIn_cons, hmarked.opensAnchor_apply, ih, anchorsIn_cons]

end Text

namespace Math

/-- A text opens as many anchors once math is put back as before. -/
theorem anchorsIn_restore (source html : List Char) :
    anchorsIn (restore (some deferred) (extract source).segments html) = anchorsIn html := by
  rcases exists_rule_restore source with ⟨r, hmarked, hrestore, hturn⟩
  rw [hrestore]
  refine Rule.anchorsIn_apply hmarked ?_ html
  intro old new hturns
  rcases hturn old new hturns with ⟨⟨n, i, hplace⟩, expression, display, rfl⟩
  exact ⟨unlinked_place hplace, unlinked_deferred expression display⟩

end Math
end Folio
