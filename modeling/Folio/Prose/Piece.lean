import Folio.Html.Tag
import Folio.Link.Bare
import Folio.Link.Definition
import Folio.Prose.Cursor

/-!
# Pieces of a text

What stands at a place in the text of a block: plain text, a line end, something written
with a backslash, code, a tag, a reference, an address, a link or an image. Delimiters of
emphasis are not pieces; they are told apart later.
-/

namespace Folio
namespace Prose

open Text Pattern

/-- What stands at a place in a text. -/
inductive Piece where
  | text (s : List Char)
  | lineEnd
  | literal (s : List Char)
  | hardBreak
  | code (s : List Char)
  | markup (s : List Char)
  /-- An address in angle brackets, as it is used and as it is shown. -/
  | address (href shown : List Char)
  /-- An address in plain text, whose scheme was taken for text before. -/
  | bare (scheme : Nat) (href shown : List Char)
  /-- A link with the length of its text. -/
  | link (target : Link.Target) (length : Nat)
  /-- An image with the length of its description. -/
  | image (target : Link.Target) (length : Nat)
  deriving DecidableEq, Repr

/-- What is known outside a text when it is read. -/
structure Surroundings where
  definitions : Link.Definitions
  /-- The plain text that was read last, in reverse. -/
  pending : List Char
  /-- How many anchors are open. -/
  anchors : Int

/-- Whether a character may begin something other than plain text. -/
def isSpecial (c : Char) : Bool :=
  "\n!#$%&*+-:<=>@[\\]^_`\x7b\x7d~".toList.contains c

/-! ## Small pieces -/

/-- A piece with its length. -/
abbrev Sized := Piece × Nat

/-- Plain text up to the next special character. -/
def plain? (s : List Char) : Option Sized :=
  let run := s.takeWhile fun c => !isSpecial c
  if run.isEmpty then none else some (.text run, run.length)

/-- A line end with the spaces after it. -/
def lineEnd? (s : List Char) : Option Sized :=
  match s with
  | '\n' :: rest => some (.lineEnd, (rest.takeWhile isSpace).length + 1)
  | _ => none

/-- A backslash with what it escapes. -/
def escaped? (s : List Char) : Option Sized :=
  match s with
  | '\\' :: c :: rest =>
      if c = '\n' then some (.hardBreak, (rest.takeWhile isSpace).length + 2)
      else some (.literal (if Html.isEscapable c then [c] else ['\\', c]), 2)
  | _ => none

/-- What code stands for: line ends become spaces, and one space on either side is
dropped unless there are only spaces. -/
def codeText (s : List Char) : List Char :=
  let s := s.map fun c => if c = '\n' then ' ' else c
  if s.head? = some ' ' && s.getLast? = some ' ' && !s.all (· = ' ') then
    (s.drop 1).dropLast
  else
    s

/-- How many characters stand before the first run of exactly `count` backticks. A run of
`run` backticks stands right before this point, and `position` characters before it. -/
def closingTicks? (count position run : Nat) : List Char -> Option Nat
  | [] => if run = count then some (position - run) else none
  | c :: rest =>
      if c = '`' then closingTicks? count (position + 1) (run + 1) rest
      else if run = count then some (position - run)
      else closingTicks? count (position + 1) 0 rest

/-- Code between two runs of backticks of one length. A run that none closes is text. -/
def code? (c : Cursor) : Option Sized :=
  let count := (c.rest.takeWhile (· = '`')).length
  if count = 0 then
    none
  else
    let body := c.ahead.drop count
    match closingTicks? count 0 0 body with
    | some n => some (.code (codeText (body.take n)), n + 2 * count)
    | none => some (.text (List.replicate count '`'), count)

/-- A reference to a character. -/
def reference? (c : Cursor) : Option Sized :=
  if c.rest.length < 2 then
    none
  else
    (Html.reference? c.ahead).map fun r => (.literal r.1, c.ahead.length - r.2.length)

/-- A tag. -/
def tag? (c : Cursor) : Option Sized :=
  if c.rest.length < 3 then
    none
  else
    (Html.anyTag.length? c.ahead).map fun n => (.markup (c.ahead.take n), n)

/-! ## Addresses -/

/-- Whether a character may stand in a scheme. -/
def isSchemeChar (c : Char) : Bool :=
  isLatin c || isAsciiDigit c || c = '+' || c = '-' || c = '.'

/-- Whether a text in angle brackets is an address with a scheme. -/
def isAddress : Pattern :=
  sequence
    [char isAsciiLetter,
     between 1 31 (char fun c =>
       isAsciiLetter c || isAsciiDigit c || c = '+' || c = '-' || c = '.'),
     exactly ':', many (char fun c => !(c = '<' || c = '>' || Nat.ble c.toNat 0x20)),
     optional (exactly '\n'), finish]

/-- A part of a mail domain. -/
def mailPart : Pattern :=
  let alnum : Pattern := char fun c => isAsciiLetter c || isAsciiDigit c
  seq alnum
    (optional
      (seq (between 0 61 (char fun c => isAsciiLetter c || isAsciiDigit c || c = '-')) alnum))

/-- Whether a text in angle brackets is a mail address. -/
def isMailAddress : Pattern :=
  sequence
    [atLeastOne (char fun c =>
       isAsciiLetter c || isAsciiDigit c || ".!#$%&'*+/=?^_`\x7b|\x7d~-".toList.contains c),
     exactly '@', mailPart, many (seq (exactly '.') mailPart), optional (exactly '\n'), finish]

/-- What stands in angle brackets at the start of a text. -/
def inAngles? (s : List Char) : Option (List Char) :=
  match s with
  | '<' :: rest =>
      match rest.dropWhile fun c => c ≠ '<' && c ≠ '>' with
      | '>' :: _ => some (rest.takeWhile fun c => c ≠ '<' && c ≠ '>')
      | _ => none
  | _ => none

/-- An address in angle brackets. -/
def address? (s : List Char) : Option Sized :=
  match inAngles? s with
  | none => none
  | some url =>
      let href :=
        if isAddress.starts url then some (Url.normalize url)
        else if isMailAddress.starts url then some (Url.normalize ("mailto:".toList ++ url))
        else none
      match href with
      | some href =>
          if Url.isAllowed href then
            some (.address href (Url.display url), url.length + 2)
          else
            none
      | none => none

/-- An address whose scheme ends here. The scheme must have been read as plain text. -/
def bare? (env : Surroundings) (c : Cursor) : Option Sized :=
  if 0 < env.anchors || !startsWith "://".toList c.rest then
    none
  else
    let scheme := env.pending.takeWhile isSchemeChar
    match scheme.getLast? with
    | none => none
    | some first =>
        if !isLatin first then
          none
        else
          let size := scheme.length
          match Link.atStart? ((c.before.take size).reverse ++ c.ahead) with
          | none => none
          | some found =>
              if found.text.length ≤ size then
                none
              else
                let url := dropRightWhile (· = '*') found.text
                let href := Url.normalize url
                if Url.isAllowed href then
                  some (.bare size href (Url.display url), url.length - size)
                else
                  none

/-! ## Links -/

/-- The length of a text in brackets up to the closing one, from behind the opening one.
Tokens are passed over as a whole. Where links may not nest, one inside ends the search. -/
def bracketLength? (skip : Skip) (nests : Bool) (start : Nat) :
    Nat -> Nat -> Cursor -> Memo -> Option Nat × Memo
  | 0, _, _, memo => (none, memo)
  | fuel + 1, depth, c, memo =>
      match c.rest with
      | [] => (none, memo)
      | ch :: _ =>
          let depth := if ch = ']' then depth - 1 else depth
          if ch = ']' && depth = 0 then
            (some (c.position - start), memo)
          else
            let passed := skip c memo
            let isSingle := passed.1 = c.position + 1
            if ch = '[' && !isSingle && !nests then
              (none, passed.2)
            else
              bracketLength? skip nests start fuel
                (if ch = '[' && isSingle then depth + 1 else depth)
                (c.advance (passed.1 - c.position)) passed.2

/-- The length of a text in brackets; the place is behind the opening one. -/
def bracketed? (skip : Skip) (nests : Bool) (c : Cursor) (memo : Memo) : Option Nat × Memo :=
  bracketLength? skip nests c.position (c.rest.length + 1) 1 c memo

/-- How the reading of a target in parentheses ends. -/
inductive TargetEnd where
  | closed (target : Link.Target) (rest : List Char)
  /-- Something else stands where the closing parenthesis should. -/
  | stopped (rest : List Char)
  /-- The text ends behind the opening parenthesis. -/
  | unfinished
  deriving DecidableEq, Repr

/-- A target in parentheses, from behind the opening one. A destination that may not be
used counts as none. -/
def targetEnd (s : List Char) : TargetEnd :=
  let finishWith (href name rest : List Char) : TargetEnd :=
    match rest with
    | ')' :: after => .closed ⟨href, name⟩ after
    | _ => .stopped rest
  match s.dropWhile Link.isGap with
  | [] => .unfinished
  | first :: more =>
      match Link.destination? (first :: more) with
      | none => finishWith [] [] (first :: more)
      | some (dest, after) =>
          let href := Url.normalize dest
          let after := if Url.isAllowed href then after else first :: more
          let href := if Url.isAllowed href then href else []
          match Link.titleAfter? after with
          | some (name, rest) => finishWith href name (rest.dropWhile Link.isGap)
          | none => finishWith href [] (after.dropWhile Link.isGap)

/-- The definition that a label in brackets names, and the place behind it. The label may
follow the text of the link, in which case it counts unless it is empty. `place` is where
it would stand, and `behind` is where the link ends without it. -/
def defined? (skip : Skip) (env : Surroundings) (text : List Char) (place behind : Cursor)
    (memo : Memo) : Option (Link.Target × Cursor) × Memo :=
  if env.definitions.isEmpty then
    (none, memo)
  else
    let named :=
      match place.rest with
      | '[' :: _ =>
          let inner := place.advance 1
          let found := bracketed? skip true inner memo
          match found.1 with
          | some n => ((inner.rest.take n, inner.advance (n + 1)), found.2)
          | none => (([], behind), found.2)
      | _ => (([], behind), memo)
    let name := if named.1.1.isEmpty then text else named.1.1
    match env.definitions.find? (Link.label name) with
    | some target => (some (target, named.1.2), named.2)
    | none => (none, named.2)

/-- A link. A target in parentheses that cannot be read may leave the text of the link as
a label; the text is then followed by what stands behind the place of failure. -/
def link? (skip : Skip) (env : Surroundings) (c : Cursor) (memo : Memo) :
    Option Sized × Memo :=
  let inner := c.advance 1
  let found := bracketed? skip false inner memo
  match found.1 with
  | none => (none, found.2)
  | some n =>
      let behind := inner.advance (n + 1)
      let byDefinition (place : Cursor) : Option Sized × Memo :=
        let d := defined? skip env (inner.rest.take n) place behind found.2
        (d.1.map fun r => (.link r.1 n, r.2.position - c.position), d.2)
      match behind.rest with
      | '(' :: after =>
          match targetEnd after with
          | .closed target rest =>
              (some (.link target n, (behind.advanceTo rest.length).position - c.position), found.2)
          | .stopped rest => byDefinition ((behind.advanceTo rest.length).advance 1)
          | .unfinished => (none, found.2)
      | _ => byDefinition behind

/-- An image. -/
def image? (skip : Skip) (env : Surroundings) (c : Cursor) (memo : Memo) :
    Option Sized × Memo :=
  match c.rest with
  | '!' :: '[' :: _ =>
      let inner := c.advance 2
      let found := bracketed? skip true inner memo
      match found.1 with
      | none => (none, found.2)
      | some n =>
          let behind := inner.advance (n + 1)
          match behind.rest with
          | '(' :: after =>
              match targetEnd after with
              | .closed target rest =>
                  (some (.image target n, (behind.advanceTo rest.length).position - c.position),
                    found.2)
              | _ => (none, found.2)
          | _ =>
              let d := defined? skip env (inner.rest.take n) behind behind found.2
              (d.1.map fun r => (.image r.1 n, r.2.position - c.position), d.2)
  | _ => (none, memo)

/-! ## All pieces -/

/-- What stands at a place, with its length. -/
def piece? (skip : Skip) (env : Surroundings) (c : Cursor) (memo : Memo) :
    Option Sized × Memo :=
  match c.rest with
  | [] => (none, memo)
  | ch :: _ =>
      if !isSpecial ch then (plain? c.rest, memo)
      else if ch = ':' then (bare? env c, memo)
      else if ch = '\n' then (lineEnd? c.rest, memo)
      else if ch = '\\' then (escaped? c.rest, memo)
      else if ch = '`' then (code? c, memo)
      else if ch = '[' then link? skip env c memo
      else if ch = '!' then image? skip env c memo
      else if ch = '<' then (address? c.rest <|> tag? c, memo)
      else if ch = '&' then (reference? c, memo)
      else (none, memo)

/-- Pass over the token at a place: to the end of the piece there, or by one character.
The number says how deep brackets may nest; beyond that the rest of the text is passed
over. -/
def skipToken (env : Surroundings) : Nat -> Skip
  | 0, c, memo =>
      match memo.stop? c.position with
      | some stop => (stop, memo)
      | none =>
          let stop := c.position + c.rest.length + 1
          (stop, memo.keepStop c.position stop)
  | depth + 1, c, memo =>
      match memo.stop? c.position with
      | some stop => (stop, memo)
      | none =>
          let found := piece? (skipToken env depth) env c memo
          let stop := c.position + (found.1.map (·.2)).getD 1
          (stop, found.2.keepStop c.position stop)

end Prose
end Folio
