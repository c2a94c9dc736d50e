import Folio.Text.Pattern

/-!
# Places in a text

A place in the text of a block: what lies before it, what follows it in the part that is
read, and what follows that part. The content of a link is read as a part of its own,
but tags and code are recognized across its end.
-/

namespace Folio
namespace Prose

/-- A place in a text. -/
structure Cursor where
  /-- How many characters lie before it. -/
  position : Nat
  /-- The characters before it, the last first. -/
  before : List Char
  /-- The characters up to the end of the part. -/
  rest : List Char
  /-- The characters behind the part. -/
  beyond : List Char
  deriving DecidableEq, Repr

namespace Cursor

/-- The start of a text. -/
def ofText (s : List Char) : Cursor :=
  ⟨0, [], s, []⟩

/-- All characters that follow. -/
def ahead (c : Cursor) : List Char :=
  c.rest ++ c.beyond

/-- The character before a place; a text starts after a space. -/
def last (c : Cursor) : Char :=
  c.before.head?.getD ' '

/-- Go on by a number of characters. -/
def advance (c : Cursor) (n : Nat) : Cursor :=
  ⟨c.position + n, (c.rest.take n).reverse ++ c.before, c.rest.drop n, c.beyond⟩

/-- Read only the next characters as a part of their own. -/
def only (c : Cursor) (n : Nat) : Cursor :=
  { c with rest := c.rest.take n, beyond := c.rest.drop n ++ c.beyond }

/-- Go on to a place that leaves the given number of characters. -/
def advanceTo (c : Cursor) (left : Nat) : Cursor :=
  c.advance (c.rest.length - left)

end Cursor

/-- The ends of the tokens that were passed over, by the position of their start. -/
abbrev Memo := List (Nat × Nat)

namespace Memo

/-- The end of the token that starts at a position. -/
def stop? (m : Memo) (position : Nat) : Option Nat :=
  m.lookup position

/-- Keep the end of a token. -/
def keepStop (m : Memo) (position stop : Nat) : Memo :=
  (position, stop) :: m

end Memo

/-- A way to pass over the token at a place. -/
abbrev Skip := Cursor -> Memo -> Nat × Memo

end Prose
end Folio
