import Folio.Proofs.Document.Tags
import Folio.Proofs.Prose.Code

/-!
# Math in code

Code is read in the bodies of containers and in the text around them. A token stands in
code that is read exactly when the page shows other code than was read: math is put back
in a code element by itself, so the element stays as it is or its code is changed.
-/

namespace Folio
namespace Document

open Number Prose Math Text Html

variable {α : Type} [Scalar α]

/-- The texts that are read for a source: the bodies of its containers, and the text around
them. -/
def texts (source : List Char) : List (List Char) :=
  Container.bodies (extract source).text ++ [(preparedText source).1]

/-- The same texts, each with the fragments that are written for it. The contents are
written in front of the last one. -/
def written (s : Settings α) (source : List Char) : List (List Char × List Fragment) :=
  ((Container.visits renderBody (Container.regions (extract source).text)
    Heading.Anchors.start).map fun visit =>
      (visit.1, fragmentsFrom (some visit.2.count) visit.1)) ++
    [((preparedText source).1, fragments s source)]

/-- The code that is read for a source. -/
def code (source : List Char) : List (List Char) :=
  (texts source).flatMap fun text => codeIn text ++ describedIn text

/-- A text as it was typed, with the sources of segments in the places of their tokens. -/
def typed (segments : List Segment) (text : List Char) : List Char :=
  segments.foldl (fun text s => replaceAll s.token s.source text) text

/-- A code element stands among fragments, and its code stays as it is when their markup is
changed. -/
def StaysIn (change : List Char -> List Char) (list : List Fragment) (c : List Char) : Prop :=
  exists before attributes after, list = before ++ codeElement attributes c ++ after ∧
    change (writeAll list) = change (writeAll before ++ (codeTag attributes).markup) ++
      (escapeQuoted c ++ change ("</code>".toList ++ writeAll after))

theorem map_fst_written (s : Settings α) (source : List Char) :
    (written s source).map Prod.fst = texts source := by
  rw [texts, ← Container.map_fst_visits renderBody (extract source).text Heading.Anchors.start,
    written, List.map_append, List.map_map]
  rfl

theorem infix_of_mem_written {s : Settings α} {source c : List Char}
    {w : List Char × List Fragment} (hw : w ∈ written s source) (hc : c ∈ codeIn w.1) :
    exists attributes, codeElement attributes c <:+: w.2 := by
  rcases List.mem_append.1 hw with hw | hw
  · rcases List.mem_map.1 hw with ⟨visit, -, hvisit⟩
    subst hvisit
    exact infix_fragmentsFrom hc _
  · rw [List.mem_singleton] at hw
    subst hw
    rcases infix_fragmentsFrom hc (some (preparedText source).2.count) with ⟨attributes, hin⟩
    exact ⟨attributes, hin.trans (List.suffix_append _ _).isInfix⟩

/-- Math is put back in a code element by itself. -/
theorem restoreWith_codeElement {answer : Segment -> Outcome} {source : List Char}
    (h : HoldsNoToken answer source) (before : List Fragment) (attributes : List Attribute)
    (c : List Char) (after : List Fragment) :
    restoreWith answer (extract source).segments
        (writeAll (before ++ codeElement attributes c ++ after)) =
      restoreWith answer (extract source).segments
          (writeAll before ++ (codeTag attributes).markup) ++
        (restoreWith answer (extract source).segments (escapeQuoted c) ++
          restoreWith answer (extract source).segments ("</code>".toList ++ writeAll after)) := by
  have hwritten : writeAll (before ++ codeElement attributes c ++ after) =
      (writeAll before ++ (codeTag attributes).markup) ++
        (escapeQuoted c ++ ("</code>".toList ++ writeAll after)) := by
    simp [codeElement, Fragment.markup, Tag.plain, Tag.markup]
  rcases markup_codeTag attributes with ⟨front, d, htag, hd⟩
  have hopens : forall n, Seam n (writeAll before ++ (codeTag attributes).markup)
      (escapeQuoted c ++ ("</code>".toList ++ writeAll after)) := by
    intro n
    rw [htag, ← List.append_assoc]
    exact seam_of_closes hd _ _
  have hcloses : forall n, Seam n (escapeQuoted c) ("</code>".toList ++ writeAll after) := by
    intro n
    apply seam_of_opens
    intro hmeets
    exact absurd (meets_cons_cons.1 (meets_cons_cons.1 hmeets).2).1 (by decide)
  rw [hwritten, restoreWith_append h hopens, restoreWith_append h hcloses]

theorem unresolved_escapeQuoted (source c : List Char) :
    unresolved (extract source).segments (escapeQuoted c) = [] ↔
      unresolved (extract source).segments c = [] := by
  rcases exists_recoverable_extract source with ⟨n, hsegments⟩
  simp only [unresolved_eq_nil_iff]
  refine forall₂_congr ?_
  intro x hx
  rcases hsegments.numbered x hx with ⟨i, hi⟩
  rw [hi, occurs_tokenOf_escapeQuoted]

/-- Code stays as it is when math is put back exactly when no token stands in it. -/
theorem restoreWith_escapeQuoted_iff {answer : Segment -> Outcome} {source : List Char}
    (h : HoldsNoToken answer source) (c : List Char) :
    restoreWith answer (extract source).segments (escapeQuoted c) = escapeQuoted c ↔
      unresolved (extract source).segments c = [] :=
  (restoreWith_eq_self_iff h (escapeQuoted c)).trans (unresolved_escapeQuoted source c)

theorem staysIn_iff {answer : Segment -> Outcome} {s : Settings α} {source c : List Char}
    (h : HoldsNoToken answer source) {w : List Char × List Fragment} (hw : w ∈ written s source)
    (hc : c ∈ codeIn w.1) :
    StaysIn (restoreWith answer (extract source).segments) w.2 c ↔
      unresolved (extract source).segments c = [] := by
  rw [← restoreWith_escapeQuoted_iff h]
  constructor
  · intro hstays
    rcases hstays with ⟨before, attributes, after, hlist, hchange⟩
    rw [hlist, restoreWith_codeElement h, List.append_cancel_left_eq,
      List.append_cancel_right_eq] at hchange
    exact hchange
  · intro hself
    rcases infix_of_mem_written hw hc with ⟨attributes, before, after, hlist⟩
    refine ⟨before, attributes, after, hlist.symm, ?_⟩
    rw [← hlist, restoreWith_codeElement h, hself]

theorem mem_code_iff (s : Settings α) {source c : List Char} :
    c ∈ code source ↔ ∃ w ∈ written s source, c ∈ codeIn w.1 ∨ c ∈ describedIn w.1 := by
  simp only [code, ← map_fst_written s, List.mem_flatMap, List.mem_map, List.mem_append]
  constructor
  · intro h
    rcases h with ⟨text, ⟨w, hw, htext⟩, hc⟩
    exact ⟨w, hw, htext ▸ hc⟩
  · intro h
    rcases h with ⟨w, hw, hc⟩
    exact ⟨w.1, ⟨w, hw, rfl⟩, hc⟩

theorem typed_eq_self_iff (source text : List Char) :
    typed (extract source).segments text = text ↔
      unresolved (extract source).segments text = [] := by
  rcases exists_recoverable_extract source with ⟨n, h⟩
  rw [unresolved_eq_nil_iff]
  exact h.foldl_replaceAll_eq_self_iff text

/-- No token stands in code that is read exactly when all of it was typed as it is read.
This is so exactly when code does not change as math is put back, whatever is put back:
each code element of the page keeps its code, and so does the code in the descriptions of
images. -/
theorem code_resolved_iff (s : Settings α) (source : List Char) :
    ((∀ c ∈ code source, unresolved (extract source).segments c = []) ↔
      ∀ c ∈ code source, typed (extract source).segments c = c) ∧
    ((∀ c ∈ code source, unresolved (extract source).segments c = []) ↔
      forall answer : Segment -> Outcome, HoldsNoToken answer source ->
        ∀ w ∈ written s source,
          (∀ c ∈ codeIn w.1, StaysIn (restoreWith answer (extract source).segments) w.2 c) ∧
          (∀ c ∈ describedIn w.1,
            restoreWith answer (extract source).segments (escapeQuoted c) = escapeQuoted c)) := by
  refine ⟨forall₂_congr fun c _ => (typed_eq_self_iff source c).symm, ?_⟩
  constructor
  · intro hfree answer h w hw
    constructor
    · intro c hc
      exact (staysIn_iff h hw hc).2 (hfree c ((mem_code_iff s).2 ⟨w, hw, Or.inl hc⟩))
    · intro c hc
      exact (restoreWith_escapeQuoted_iff h c).2
        (hfree c ((mem_code_iff s).2 ⟨w, hw, Or.inr hc⟩))
  · intro hstays c hc
    have h := holdsNoToken_deferred source
    rcases (mem_code_iff s).1 hc with ⟨w, hw, hread | hdescribed⟩
    · exact (staysIn_iff h hw hread).1 ((hstays _ h w hw).1 c hread)
    · exact (restoreWith_escapeQuoted_iff h c).1 ((hstays _ h w hw).2 c hdescribed)

/-- Math between the fences of a quote stands in code. -/
theorem code_unresolved_of_quoted_fence :
    ¬ ∀ c ∈ code "> ~~~\n> $x$\n> ~~~".toList,
      unresolved (extract "> ~~~\n> $x$\n> ~~~".toList).segments c = [] := by
  decide +kernel

end Document
end Folio
