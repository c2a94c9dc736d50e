import Folio.Heading.Slug
import Folio.Number.Decimal

/-!
# Anchors

While a document is rendered its headings are counted, and the count is part of each
anchor, so no two headings share one. Headings from containers are found before the
text around them is read; they wait in line until their container is met.
-/

namespace Folio
namespace Heading

/-- A heading that is listed in the table of contents. -/
structure Entry where
  id : List Char
  /-- The rendered text, which may hold placeholders of math. -/
  text : List Char
  level : Int
  deriving DecidableEq, Repr, Inhabited

/-- The anchor of the heading with a given count. -/
def anchor (text : List Char) (count : Nat) : List Char :=
  slug text ++ '-' :: Number.digitsOf count

/-- Whether headings of a level are listed. -/
def isListed (level : Int) : Bool :=
  level = 1 || level = 2

/-- What is known of the headings of a document. -/
structure Anchors where
  /-- The listed headings, in the order of the document. -/
  listed : List Entry
  /-- How many anchors were given out. -/
  count : Nat
  /-- The headings of containers that were not met yet, one list for each container. -/
  waiting : List (List Entry)
  deriving DecidableEq, Repr, Inhabited

namespace Anchors

/-- Nothing rendered yet. -/
def start : Anchors := ⟨[], 0, []⟩

/-- Give out the next anchor. -/
def next (a : Anchors) (text : List Char) : List Char × Anchors :=
  (anchor text (a.count + 1), { a with count := a.count + 1 })

/-- List the headings that still wait. -/
def flush (a : Anchors) : Anchors :=
  { a with listed := a.listed ++ a.waiting.flatten, waiting := [] }

/-- List the headings of the container that is met. -/
def meet (a : Anchors) : Anchors :=
  match a.waiting with
  | [] => a
  | first :: rest => { a with listed := a.listed ++ first, waiting := rest }

/-- List a heading. -/
def list (a : Anchors) (entry : Entry) : Anchors :=
  { a with listed := a.listed ++ [entry] }

@[simp] theorem waiting_flush (a : Anchors) : a.flush.waiting = [] := rfl

@[simp] theorem count_flush (a : Anchors) : a.flush.count = a.count := rfl

@[simp] theorem count_next (a : Anchors) (text : List Char) :
    (a.next text).2.count = a.count + 1 := rfl

@[simp] theorem count_meet (a : Anchors) : a.meet.count = a.count := by
  unfold meet
  split <;> rfl

/-- Meeting a container moves headings from the line to the list and loses none. -/
theorem listed_meet (a : Anchors) :
    a.meet.listed ++ a.meet.waiting.flatten = a.listed ++ a.waiting.flatten := by
  unfold meet
  split
  · rfl
  · next first rest h => simp [h]

end Anchors
end Heading
end Folio
