import Folio.Text.Case

/-!
# Patterns

A pattern describes texts by alternatives, sequences and repetitions, tried in order:
the first alternative comes first, and a repetition takes as much as it can. What
follows a pattern is passed to it as a continuation, so a choice that makes the rest
fail is taken back.
-/

namespace Folio
namespace Text

/-- A description of texts. -/
inductive Pattern where
  /-- No characters. -/
  | empty
  /-- One character of a class. -/
  | char (p : Char -> Bool)
  | seq (first second : Pattern)
  | alt (first second : Pattern)
  /-- At least `least` times, and at most `most` times where that is given. -/
  | repeated (least : Nat) (most : Option Nat) (body : Pattern)
  /-- Takes nothing, and asks whether the pattern matches here. -/
  | ahead (wanted : Bool) (body : Pattern)
  /-- The end of the text. -/
  | finish

namespace Pattern

/-- Repeat a step, as often as it succeeds and is allowed, and go on with `next`. A
step that takes nothing is not repeated; the first number bounds the repetitions. -/
def iterate (step : List Char -> (List Char -> Option (List Char)) -> Option (List Char)) :
    Nat -> Nat -> Option Nat -> List Char -> (List Char -> Option (List Char)) ->
      Option (List Char)
  | 0, least, _, s, next => if least = 0 then next s else none
  | fuel + 1, least, most, s, next =>
      let more :=
        if most = some 0 then
          none
        else
          step s fun rest =>
            if rest.length < s.length || 0 < least then
              iterate step fuel (least - 1) (most.map (· - 1)) rest next
            else
              none
      match more with
      | some found => some found
      | none => if least = 0 then next s else none

/-- Match a pattern at the start of a text and go on with `next`. -/
def run : Pattern -> List Char -> (List Char -> Option (List Char)) -> Option (List Char)
  | .empty, s, next => next s
  | .char p, s, next =>
      match s with
      | c :: rest => if p c then next rest else none
      | [] => none
  | .seq a b, s, next => a.run s fun rest => b.run rest next
  | .alt a b, s, next =>
      match a.run s next with
      | some found => some found
      | none => b.run s next
  | .repeated least most body, s, next =>
      iterate body.run (s.length + least + 1) least most s next
  | .ahead wanted body, s, next =>
      if (body.run s some).isSome = wanted then next s else none
  | .finish, s, next =>
      match s with
      | [] => next s
      | _ :: _ => none

/-- What follows a match at the start of a text. -/
def rest? (p : Pattern) (s : List Char) : Option (List Char) :=
  p.run s some

/-- The length of a match at the start of a text. -/
def length? (p : Pattern) (s : List Char) : Option Nat :=
  (p.rest? s).map fun rest => s.length - rest.length

/-- Whether a text starts with a match. -/
def starts (p : Pattern) (s : List Char) : Bool :=
  (p.rest? s).isSome

/-- Whether a match occurs somewhere in a text. -/
def occursIn (p : Pattern) : List Char -> Bool
  | [] => p.starts []
  | c :: rest => p.starts (c :: rest) || p.occursIn rest

/-! ## Building patterns -/

/-- A sequence of patterns. -/
def sequence (ps : List Pattern) : Pattern :=
  ps.foldr seq empty

/-- The first of several patterns that leads to a match. -/
def oneOf : List Pattern -> Pattern
  | [] => ahead false empty
  | [p] => p
  | p :: ps => alt p (oneOf ps)

/-- Any number of times. -/
def many (p : Pattern) : Pattern := repeated 0 none p

/-- At least once. -/
def atLeastOne (p : Pattern) : Pattern := repeated 1 none p

/-- At most once. -/
def optional (p : Pattern) : Pattern := repeated 0 (some 1) p

/-- Between two counts. -/
def between (least most : Nat) (p : Pattern) : Pattern := repeated least (some most) p

/-- Not followed by a pattern. -/
def notAhead (p : Pattern) : Pattern := ahead false p

/-- One given character. -/
def exactly (c : Char) : Pattern := char (· = c)

/-- One character of a list. -/
def anyOf (cs : List Char) : Pattern := char (cs.contains ·)

/-- One character outside a list. -/
def noneOf (cs : List Char) : Pattern := char (!cs.contains ·)

/-- A letter, of either case. -/
def letter (c : Char) : Pattern := char (sameLetter c)

/-- A word, in letters of either case. -/
def word (s : List Char) : Pattern := sequence (s.map letter)

/-- A word, in ASCII letters of either case. -/
def asciiWord (s : List Char) : Pattern :=
  sequence (s.map fun c => char fun d => d.toLower = c.toLower)

/-- A text as it is. -/
def literal (s : List Char) : Pattern := sequence (s.map exactly)

/-- Whether a character is, up to case, a letter from `a` to `z`. -/
def isLatin (c : Char) : Bool :=
  Nat.ble 97 (caseKey c) && Nat.ble (caseKey c) 122

/-- Whether a character is an ASCII digit. -/
def isAsciiDigit (c : Char) : Bool :=
  Nat.ble 48 c.toNat && Nat.ble c.toNat 57

/-- Whether a character is an ASCII letter. -/
def isAsciiLetter (c : Char) : Bool :=
  (Nat.ble 97 c.toNat && Nat.ble c.toNat 122) || (Nat.ble 65 c.toNat && Nat.ble c.toNat 90)

end Pattern
end Text
end Folio
