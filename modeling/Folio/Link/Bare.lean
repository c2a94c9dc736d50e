import Folio.Text.Pattern
import Folio.Text.Punctuation
import Folio.Text.Digit
import Folio.Text.Search

/-!
# Bare links

Addresses that stand in prose without any marks: with a scheme, as a host name under
a known top-level domain, or as a mail address. A bare link ends before punctuation
that belongs to the sentence around it.
-/

namespace Folio
namespace Link

open Text Pattern

/-! ## Character classes -/

/-- Separators and control characters. -/
def isBreak (c : Char) : Bool :=
  isSeparator c || isControl c

/-- Separators, punctuation and control characters. -/
def isBoundary (c : Char) : Bool :=
  isSeparator c || isPunctuation c || isControl c

/-- Marks that part text: angle brackets and the full-width bar. -/
def isTextSeparator (c : Char) : Bool :=
  c = '>' || c = '<' || c.toNat = 0xFF5C

/-- Everything that may be part of a name. -/
def isNameChar (c : Char) : Bool :=
  !(isTextSeparator c || isBoundary c)

/-- A character of a name. -/
def nameChar : Pattern := char isNameChar

/-- A separator or control character. -/
def breakChar : Pattern := char isBreak

/-- A digit of any script. -/
def digit : Pattern := char isDigit

/-! ## Hosts -/

/-- A part of a host name in its ASCII form. -/
def asciiForm : Pattern :=
  seq (word "xn--".toList)
    (between 1 59 (char fun c => isLatin c || isAsciiDigit c || c = '-'))

/-- The last part of a host name. -/
def rootPart : Pattern :=
  oneOf [asciiForm, between 1 63 nameChar]

/-- A part of a host name. -/
def hostPart : Pattern :=
  oneOf
    [asciiForm, nameChar,
     sequence [nameChar, between 0 61 (oneOf [exactly '-', nameChar]), nameChar]]

/-- The parts of a host name in front of others. -/
def hostParts : Pattern := seq hostPart (exactly '.')

/-- A host name. -/
def host : Pattern := seq (many hostParts) hostPart

/-- Top-level domains that are recognized by name. -/
def topNames : List (List Char) :=
  ["biz".toList, "com".toList, "edu".toList, "gov".toList, "net".toList, "org".toList,
   "pro".toList, "web".toList, "xxx".toList, "aero".toList, "asia".toList, "coop".toList,
   "info".toList, "museum".toList, "name".toList, "shop".toList, "рф".toList]

/-- The top-level domains of two letters: the second letters for each first. -/
def countryCodes : List (Char × List Char) :=
  [('a', "cdefgilmnoqrstuwxz".toList), ('b', "abdefghijmnorstvwyz".toList),
   ('c', "acdfghiklmnoruvwxyz".toList), ('d', "ejkmoz".toList), ('e', "cegrstu".toList),
   ('f', "ijkmor".toList), ('g', "abdefghilmnpqrstuwy".toList), ('h', "kmnrtu".toList),
   ('i', "delmnoqrst".toList), ('j', "emop".toList), ('k', "eghimnprwyz".toList),
   ('l', "abcikrstuvy".toList), ('m', "acdeghklmnopqrstuvwxyz".toList),
   ('n', "acefgilopruz".toList), ('o', "m".toList), ('p', "aefghklmnrstwy".toList),
   ('q', "a".toList), ('r', "eosuw".toList), ('s', "abcdeghijklmnortuvxyz".toList),
   ('t', "cdfghjklmnortvwz".toList), ('u', "agksyz".toList), ('v', "aceginu".toList),
   ('w', "fs".toList), ('y', "et".toList), ('z', "amw".toList)]

/-- A letter of either case out of a list. -/
def letterOf (cs : List Char) : Pattern :=
  char fun c => cs.any (sameLetter c)

/-- A top-level domain. -/
def topDomain : Pattern :=
  oneOf (topNames.map word ++
    countryCodes.map (fun row => seq (letter row.1) (letterOf row.2)) ++ [asciiForm])

/-- A host name under a known top-level domain. -/
def knownHost : Pattern :=
  seq (atLeastOne hostParts) topDomain

/-- A number of an address of four numbers. -/
def octet : Pattern :=
  oneOf
    [seq (literal ['2', '5']) (char fun c => '0' ≤ c && c ≤ '5'),
     sequence [exactly '2', char (fun c => '0' ≤ c && c ≤ '4'), char isAsciiDigit],
     sequence
       [optional (anyOf ['0', '1']), char isAsciiDigit, optional (char isAsciiDigit)]]

/-- An address of four numbers. -/
def numericHost : Pattern :=
  seq (repeated 3 (some 3) (seq octet (exactly '.'))) octet

/-- The number after a host, if there is one, up to the greatest there is. -/
def portPart : Pattern :=
  let d (lo hi : Char) : Pattern := char fun c => lo ≤ c && c ≤ hi
  optional
    (seq (exactly ':')
      (oneOf
        [seq (exactly '6')
          (oneOf
            [seq (d '0' '4') (repeated 3 (some 3) digit),
             seq (exactly '5')
               (oneOf
                 [seq (d '0' '4') (repeated 2 (some 2) digit),
                  seq (exactly '5')
                    (oneOf [seq (d '0' '2') digit, seq (exactly '3') (d '0' '5')])])]),
         seq (optional (d '1' '5')) (between 1 4 digit)]))

/-- Where a host name may end. -/
def hostEnd : Pattern :=
  sequence
    [ahead true (oneOf [finish, char isTextSeparator, char isBoundary]),
     notAhead
       (oneOf
         [exactly '-', exactly '_', seq (exactly ':') digit, literal ['.', '-'],
          seq (exactly '.') (notAhead (oneOf [finish, char isBoundary]))])]

/-- Credentials in front of a host, up to fifty characters. -/
def credentials : Pattern :=
  optional
    (seq
      (between 1 50 (char fun c => !(isBreak c || "@/[]()".toList.contains c)))
      (exactly '@'))

/-! ## Paths -/

/-- What stands between two brackets of a path. -/
def within (opening closing : Char) (least : Nat) : Pattern :=
  sequence
    [exactly opening,
     repeated least none (char fun c => !(isBreak c || c = closing) && c ≠ '\n'),
     exactly closing]

/-- One step of a path, a query or a fragment. -/
def pathStep : Pattern :=
  oneOf
    [char fun c =>
      !(isBreak c || isTextSeparator c || "()[]\x7b\x7d.,\"'?!-;".toList.contains c) && c ≠ '\n',
     within '[' ']' 0, within '(' ')' 0, within '\x7b' '\x7d' 0, within '"' '"' 1,
     within '\'' '\'' 1,
     seq (exactly '\'') (ahead true (oneOf [nameChar, exactly '-'])),
     seq (repeated 2 none (exactly '.'))
       (char fun c => isLatin c || isAsciiDigit c || c = '%' || c = '/' || c = '&'),
     seq (exactly '.') (notAhead (oneOf [breakChar, exactly '.', finish])),
     atLeastOne (exactly '-'),
     seq (exactly ',') (notAhead (oneOf [breakChar, finish])),
     seq (exactly ';') (notAhead (oneOf [breakChar, finish])),
     seq (atLeastOne (exactly '!')) (notAhead (oneOf [breakChar, exactly '!', finish])),
     seq (exactly '?') (notAhead (oneOf [breakChar, exactly '?', finish]))]

/-- A path, a query or a fragment. -/
def path : Pattern :=
  optional
    (oneOf [seq (anyOf ['/', '?', '#']) (atLeastOne pathStep), exactly '/'])

/-! ## Links -/

/-- The name in front of the at sign of a mail address, up to sixty-four characters. -/
def mailName : Pattern :=
  let c (c : Char) : Bool := isLatin c || isAsciiDigit c || "-;:&=+$,._".toList.contains c
  seq (char c) (between 0 63 (char fun d => c d || d = '"'))

/-- What follows the scheme of an address with two slashes. -/
def afterScheme : Pattern :=
  sequence [literal ['/', '/'], credentials, host, portPart, hostEnd, path]

/-- What follows two slashes without a scheme. -/
def afterSlashes : Pattern :=
  sequence
    [credentials,
     oneOf [word "localhost".toList, seq (atLeastOne hostParts) rootPart], portPart, hostEnd, path]

/-- What follows the scheme of a mail address. -/
def afterMailto : Pattern :=
  sequence [mailName, exactly '@', host, hostEnd]

/-- An address without scheme under a known top-level domain. -/
def plainLink : Pattern :=
  sequence
    [notAhead (anyOf ("$+<=>^`|".toList ++ [Char.ofNat 0xFF5C])), knownHost, portPart, hostEnd, path]

/-- A mail address without scheme. -/
def plainMail : Pattern :=
  sequence [mailName, exactly '@', oneOf [numericHost, knownHost], hostEnd]

/-- A quick test for a host name without scheme. -/
def hostHint : Pattern :=
  oneOf
    [word "localhost".toList, word "www.".toList,
     sequence [exactly '.', between 1 3 digit, exactly '.'],
     sequence
       [exactly '.', topDomain, oneOf [char isBoundary, exactly '>', finish]]]

/-- How a bare link is written. -/
inductive Scheme where
  /-- With `http`, `https` or `ftp`. -/
  | web
  /-- With two slashes only. -/
  | slashes
  /-- With `mailto`. -/
  | mail
  /-- As a host name. -/
  | noWeb
  /-- As a mail address. -/
  | noMail
  deriving DecidableEq, Repr

/-- A bare link in a text. -/
structure Found where
  scheme : Scheme
  /-- How many characters stand before it. -/
  start : Nat
  text : List Char
  deriving DecidableEq, Repr

/-- How many characters stand before its end. -/
def Found.stop (f : Found) : Nat :=
  f.start + f.text.length

/-- A scheme at the start of a text: its kind and its length. -/
def schemeAt? (s : List Char) : Option (Scheme × Nat) :=
  let named? (name : String) (kind : Scheme) : Option (Scheme × Nat) :=
    ((word name.toList).length? s).map fun n => (kind, n)
  match named? "http:" .web with
  | some r => some r
  | none =>
      match named? "https:" .web with
      | some r => some r
      | none =>
          match named? "ftp:" .web with
          | some r => some r
          | none =>
              match named? "//" .slashes with
              | some r => some r
              | none => named? "mailto:" .mail

/-- The length of what follows a scheme, if it makes a link. The characters before the
scheme are given in reverse. -/
def tailLength (scheme : Scheme) (before rest : List Char) : Nat :=
  match scheme with
  | .web => (afterScheme.length? rest).getD 0
  | .mail => (afterMailto.length? rest).getD 0
  | .slashes =>
      if before.head? = some ':' || before.head? = some '/' then 0
      else (afterSlashes.length? rest).getD 0
  | _ => 0

/-- The links with a scheme. A scheme may stand at the start of a text or after a boundary,
and the search goes on behind it. `before` holds the characters before this point in
reverse; `skip` characters are still to be passed over. -/
def schemed (before : List Char) (position : Nat) (skip : Nat) : List Char -> List Found
  | [] => []
  | c :: rest =>
      match skip with
      | n + 1 => schemed (c :: before) (position + 1) n rest
      | 0 =>
          let here :=
            if position = 0 then (schemeAt? (c :: rest)).map fun r => (r, 0, c :: rest, before)
            else none
          let found :=
            match here with
            | some r => some r
            | none =>
                if c ≠ '_' && (isTextSeparator c || isBoundary c) then
                  (schemeAt? rest).map fun r => (r, 1, rest, c :: before)
                else
                  none
          match found with
          | none => schemed (c :: before) (position + 1) 0 rest
          | some ((scheme, length), lead, text, previous) =>
              let tail := tailLength scheme previous (text.drop length)
              let others := schemed (c :: before) (position + 1) (lead + length - 1) rest
              if tail = 0 then others
              else ⟨scheme, position + lead, text.take (length + tail)⟩ :: others

/-- Whether a host name may follow a character. -/
def mayPrecedeHost (c : Char) : Bool :=
  !".:/\\-_@".toList.contains c &&
    ("$+<=>^`|".toList.contains c || c.toNat = 0xFF5C || isBoundary c)

/-- Whether a mail address may follow a character. -/
def mayPrecedeMail (c : Char) : Bool :=
  isTextSeparator c || c = '"' || c = '(' || isBreak c

/-- The links of a kind that a pattern describes: at the start of a text or after a
character that may stand in front of them, none reaching into the next. -/
def matching (scheme : Scheme) (mayPrecede : Char -> Bool) (p : Pattern) (position skip : Nat) :
    List Char -> List Found
  | [] => []
  | c :: rest =>
      match skip with
      | n + 1 => matching scheme mayPrecede p (position + 1) n rest
      | 0 =>
          match (if position = 0 then p.length? (c :: rest) else none) with
          | some n =>
              ⟨scheme, 0, (c :: rest).take n⟩ :: matching scheme mayPrecede p 1 (n - 1) rest
          | none =>
              match (if mayPrecede c then p.length? rest else none) with
              | some n =>
                  ⟨scheme, position + 1, rest.take n⟩ ::
                    matching scheme mayPrecede p (position + 1) n rest
              | none => matching scheme mayPrecede p (position + 1) 0 rest

/-- The host names of a text. -/
def hosts (s : List Char) : List Found :=
  matching .noWeb mayPrecedeHost plainLink 0 0 s

/-- The mail addresses of a text. -/
def mails (s : List Char) : List Found :=
  matching .noMail mayPrecedeMail plainMail 0 0 s

/-- Whether a text holds bare links. A host name counts only where the quick test agrees. -/
def holdsLink (s : List Char) : Bool :=
  !(schemed [] 0 0 s).isEmpty || (hostHint.occursIn s && !(hosts s).isEmpty) ||
    !(mails s).isEmpty

/-- Whether a link comes before another: it starts first, or it starts at the same place and
reaches at least as far. -/
def Found.precedes (f g : Found) : Bool :=
  f.start < g.start || (f.start = g.start && g.stop ≤ f.stop)

/-- Drop the links that start inside one before them. `passed` characters are taken. -/
def dropOverlapping (passed : Nat) : List Found -> List Found
  | [] => []
  | f :: rest =>
      if f.start < passed then dropOverlapping passed rest
      else f :: dropOverlapping f.stop rest

/-- All bare links of a text, in order. Of links that overlap the one that starts first
counts, and of those the longest; a scheme goes before a mail address and that before a
host name. -/
def all (s : List Char) : List Found :=
  dropOverlapping 0
    (((schemed [] 0 0 s).merge (mails s) Found.precedes).merge (hosts s) Found.precedes)

/-- The link with a scheme that starts at the start of a text. -/
def atStart? (s : List Char) : Option Found :=
  match schemeAt? s with
  | none =>
      match s with
      | c :: rest =>
          if c ≠ '_' && (isTextSeparator c || isBoundary c) then
            match schemeAt? rest with
            | some (scheme, length) =>
                let tail := tailLength scheme [c] (rest.drop length)
                if tail = 0 then none else some ⟨scheme, 1, rest.take (length + tail)⟩
            | none => none
          else
            none
      | [] => none
  | some (scheme, length) =>
      let tail := tailLength scheme [] (s.drop length)
      if tail = 0 then none else some ⟨scheme, 0, s.take (length + tail)⟩

/-- The address a bare link leads to. -/
def Found.address (f : Found) : List Char :=
  match f.scheme with
  | .noWeb => "http://".toList ++ f.text
  | .noMail =>
      if (word "mailto:".toList).starts f.text then f.text else "mailto:".toList ++ f.text
  | _ => f.text

end Link
end Folio
