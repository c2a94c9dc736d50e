import Folio.Proofs.Html.Decoded
import Folio.Math.Typeset

/-!
# The markup of math

The markup of a piece of math is one element. Left to the page, it holds the expression between
its delimiters; for a failure it holds the expression as it was written, and its title the
reason. Nothing in an expression or a reason can end the element or a value in it.
-/

namespace Folio
namespace Math

open Text Html

/-- The name of the element around math. -/
def wrapperName (display : Bool) : List Char :=
  if display then "div".toList else "span".toList

def wrapperAttributes (display : Bool) : List Char :=
  if display then " class=\"math-display\" dir=\"ltr\"".toList
  else " class=\"math-inline\" dir=\"ltr\"".toList

/-- An expression in the delimiters that the page looks for. -/
def delimited (expression : List Char) (display : Bool) : List Char :=
  if display then "\\[".toList ++ expression ++ "\\]".toList
  else "\\(".toList ++ expression ++ "\\)".toList

/-- The attributes of the marker for a failure, with a title as it is written. -/
def markerAttributes (title : List Char) : List Char :=
  " class=\"math-error\" dir=\"ltr\" title=\"".toList ++ title ++ ['"']

/-- The reason that is told for an answer that is no markup: the message, or the kind of a
failure without one. -/
inductive Outcome.Tells (expression : List Char) : Outcome -> List Char -> Prop
  | message {kind message : List Char} (h : message ≠ []) :
      Tells expression (.failure kind message) message
  | kind (kind : List Char) : Tells expression (.failure kind []) kind
  | noMarkup :
      Tells expression .noMarkup
        (failureMessage expression "renderer returned no markup".toList)

/-!
## Elements
-/

theorem wrap_eq (markup : List Char) (display : Bool) :
    wrap markup display = elementOf (wrapperName display) (wrapperAttributes display) markup := by
  have helement (name attributes : List Char) : elementOf name attributes markup =
      '<' :: (name ++ attributes) ++ ['>'] ++ markup ++ '<' :: ('/' :: name ++ ['>']) := by
    simp [elementOf]
  cases display with
  | false => exact (helement (wrapperName false) (wrapperAttributes false)).symm
  | true => exact (helement (wrapperName true) (wrapperAttributes true)).symm

theorem flat_wrapper (display : Bool) :
    Flat (wrapperName display) ∧ Flat (wrapperAttributes display) := by
  cases display with
  | false => decide
  | true => decide

theorem elementOf_titled (name front title content : List Char) :
    elementOf name (front ++ title ++ ['"']) content =
      '<' :: (name ++ front) ++ title ++ ['"', '>'] ++ content ++
        '<' :: ('/' :: name ++ ['>']) := by
  simp [elementOf]

theorem errorMarker_eq (expression reason : List Char) :
    errorMarker expression reason =
      elementOf "span".toList (markerAttributes (escapeAttribute reason))
        (escapeAttribute expression) :=
  (elementOf_titled "span".toList " class=\"math-error\" dir=\"ltr\" title=\"".toList
    (escapeAttribute reason) (escapeAttribute expression)).symm

theorem flat_markerAttributes {title : List Char} (h : Flat title) :
    Flat (markerAttributes title) := by
  have hfront : Flat " class=\"math-error\" dir=\"ltr\" title=\"".toList := by decide
  have hback : Flat ['"'] := by decide
  exact (hfront.append h).append hback

/-- The delimiters hold no signs. -/
theorem deferred_eq (expression : List Char) (display : Bool) :
    deferred expression display = .markup (escapeText (delimited (trim expression) display)) := by
  cases display with
  | false =>
      show _ = Outcome.markup (escapeText ("\\(".toList ++ trim expression ++ "\\)".toList))
      rw [escapeText_append, escapeText_append]
      rfl
  | true =>
      show _ = Outcome.markup (escapeText ("\\[".toList ++ trim expression ++ "\\]".toList))
      rw [escapeText_append, escapeText_append]
      rfl

theorem markupFor_of_tells {expression reason : List Char} {outcome : Outcome}
    (h : outcome.Tells expression reason) (display : Bool) :
    outcome.markupFor expression display = errorMarker expression reason := by
  cases h with
  | message h =>
      rw [Outcome.markupFor, List.isEmpty_eq_false_iff.2 h]
      rfl
  | kind kind => rfl
  | noMarkup => rfl

/-!
## Markup
-/

/-- Math that is left to the page is one element around the expression in its delimiters, without
blanks at its ends. A failure is one element around the expression, with the reason as its
title. Both come back from the markup when its references are decoded. -/
theorem math_contained (expression : List Char) (display : Bool) :
    (exists content,
      typeset deferred expression display =
        elementOf (wrapperName display) (wrapperAttributes display) content ∧
      tagsIn (typeset deferred expression display) =
        [wrapperName display ++ wrapperAttributes display, '/' :: wrapperName display] ∧
      Flat content ∧
      decoded textReferences content = delimited (trim expression) display) ∧
    forall (setter : Typesetter) (reason : List Char),
      (setter expression display).Tells expression reason ->
        exists content title,
          typeset setter expression display =
            elementOf "span".toList (markerAttributes title) content ∧
          tagsIn (typeset setter expression display) =
            ["span".toList ++ markerAttributes title, "/span".toList] ∧
          Unsigned content ∧ Unsigned title ∧
          decoded attributeReferences content = expression ∧
          decoded attributeReferences title = reason := by
  constructor
  · have hmarkup : typeset deferred expression display =
        elementOf (wrapperName display) (wrapperAttributes display)
          (escapeText (delimited (trim expression) display)) := by
      rw [typeset, deferred_eq, Outcome.markupFor, wrap_eq]
    have hwrapper := flat_wrapper display
    have hcontent := flat_escapeText (delimited (trim expression) display)
    refine ⟨_, hmarkup, ?_, hcontent, decoded_escapeText _⟩
    rw [hmarkup, tagsIn_elementOf hwrapper.1 hwrapper.2 hcontent.1]
  · intro setter reason htells
    have hmarkup : typeset setter expression display =
        elementOf "span".toList (markerAttributes (escapeAttribute reason))
          (escapeAttribute expression) := by
      rw [typeset, markupFor_of_tells htells, errorMarker_eq]
    have htitle := flat_markerAttributes (flat_escapeAttribute reason)
    have hcontent := flat_escapeAttribute expression
    refine ⟨_, _, hmarkup, ?_, unsigned_escapeAttribute expression,
      unsigned_escapeAttribute reason, decoded_escapeAttribute expression,
      decoded_escapeAttribute reason⟩
    rw [hmarkup, tagsIn_elementOf (by decide) htitle hcontent.1]
    rfl

/-- A message with quotes and signs of its own. -/
theorem math_contained_of_failure :
    Outcome.Tells "a<b".toList (.failure "ValueError".toList "bad \"a\" & 'b'".toList)
        "bad \"a\" & 'b'".toList ∧
      exists content title,
        typeset (fun _ _ => .failure "ValueError".toList "bad \"a\" & 'b'".toList) "a<b".toList
            true = elementOf "span".toList (markerAttributes title) content ∧
        Unsigned content ∧ Unsigned title ∧
        decoded attributeReferences content = "a<b".toList ∧
        decoded attributeReferences title = "bad \"a\" & 'b'".toList := by
  have htells : Outcome.Tells "a<b".toList
      (.failure "ValueError".toList "bad \"a\" & 'b'".toList) "bad \"a\" & 'b'".toList :=
    .message (by decide)
  rcases (math_contained "a<b".toList true).2
    (fun _ _ => .failure "ValueError".toList "bad \"a\" & 'b'".toList) _ htells with
    ⟨content, title, hmarkup, -, hcontent, htitle, hexpression, hreason⟩
  exact ⟨htells, content, title, hmarkup, hcontent, htitle, hexpression, hreason⟩

end Math
end Folio
