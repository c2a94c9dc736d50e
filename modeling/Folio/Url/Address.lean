import Folio.Text.Blank
import Folio.Text.Search
import Folio.Text.Pattern

/-!
# The parts of an address

An address is cut into a scheme, a host with credentials and a number, a path, a
query and a fragment, and it can be put together again. Two slashes at the start always
introduce a host name.
-/

namespace Folio
namespace Url

open Text Pattern

/-- The parts of an address; what is not there is empty. -/
structure Address where
  /-- The scheme with its colon. -/
  scheme : List Char
  /-- Whether two slashes follow the scheme. -/
  slashes : Bool
  credentials : List Char
  host : List Char
  /-- The number after the host, without its colon. -/
  portDigits : List Char
  path : List Char
  /-- The query with its question mark. -/
  query : List Char
  /-- The fragment with its number sign. -/
  fragment : List Char
  deriving DecidableEq, Repr

/-- What stands in front of the host. -/
def Address.front (a : Address) : List Char :=
  a.scheme ++ (if a.slashes then ['/', '/'] else []) ++
    (if a.credentials.isEmpty then [] else a.credentials ++ ['@'])

/-- What stands behind the host. -/
def Address.back (a : Address) : List Char :=
  (if a.portDigits.isEmpty then [] else ':' :: a.portDigits) ++ a.path ++ a.query ++ a.fragment

/-- Put an address together from parts that `write` writes. A host with a colon stands in
brackets, which are written as they are. -/
def Address.textWith (write : List Char -> List Char) (a : Address) : List Char :=
  if a.host.contains ':' then
    write a.front ++ '[' :: write a.host ++ ']' :: write a.back
  else
    write (a.front ++ a.host ++ a.back)

/-- Put an address together. -/
def Address.text (a : Address) : List Char :=
  a.textWith id

/-- Whether a character may be part of a scheme. -/
def isSchemeChar (c : Char) : Bool :=
  isLatin c || isAsciiDigit c || c = '.' || c = '+' || c = '-'

/-- Split a scheme with its colon off. -/
def splitScheme (s : List Char) : List Char × List Char :=
  let name := s.takeWhile isSchemeChar
  match s.drop name.length with
  | ':' :: rest => if name.isEmpty then ([], s) else (name ++ [':'], rest)
  | _ => ([], s)

/-- Schemes that never have a host. -/
def isHostless (scheme : List Char) : Bool :=
  scheme == "javascript:".toList

/-- Schemes whose host always follows two slashes. -/
def isSlashed (scheme : List Char) : Bool :=
  ["http:".toList, "https:".toList, "ftp:".toList, "gopher:".toList, "file:".toList].contains
    scheme

/-- Characters that end everything that belongs to the host. -/
def endsHost (c : Char) : Bool :=
  c = '/' || c = '?' || c = '#'

/-- Characters that never stand in a host name. -/
def isNoHostChar (c : Char) : Bool :=
  "%/?;#'\x7b\x7d|\\^`<>\" \r\n\t".toList.contains c

/-- Split at the last at sign. -/
def splitCredentials (s : List Char) : Option (List Char × List Char) :=
  if s.contains '@' then
    let after := (s.reverse.takeWhile (· ≠ '@')).reverse
    some (s.take (s.length - after.length - 1), after)
  else
    none

/-- Split the number after a colon off the end of a host. -/
def splitPort (s : List Char) : List Char × List Char :=
  let digits := (s.reverse.takeWhile isAsciiDigit).reverse
  let before := s.take (s.length - digits.length)
  if before.getLast? = some ':' then (before.dropLast, digits) else (s, [])

/-- Characters of a part of a host name. -/
def isHostChar (c : Char) : Bool :=
  isAsciiLetter c || isAsciiDigit c || c = '+' || c = '_' || c = '-'

/-- Whether a part of a host name may stand, with any other than ASCII characters in
it. -/
def isHostPart (part : List Char) : Bool :=
  part.all (fun c => isHostChar c || 127 < c.toNat) && part.length ≤ 63

/-- Cut a host name short at its first part that may not stand. The characters that are
left over go back in front of the path. -/
def trimHost (kept : List (List Char)) : List (List Char) -> List (List Char) × List (List Char)
  | [] => (kept.reverse, [])
  | part :: rest =>
      if isHostPart part then
        trimHost (part :: kept) rest
      else
        let good := (part.takeWhile isHostChar).take 63
        ((good :: kept).reverse, part.drop good.length :: rest)

/-- Cut path, query and fragment. -/
def splitTail (s : List Char) : List Char × List Char × List Char :=
  let beforeFragment := s.takeWhile (· ≠ '#')
  let fragment := s.drop beforeFragment.length
  let path := beforeFragment.takeWhile (· ≠ '?')
  (path, beforeFragment.drop path.length, fragment)

/-- Whether a host name stands in brackets. -/
def isBracketed (host : List Char) : Bool :=
  host.head? = some '[' && host.getLast? = some ']'

/-- Cut an address into its parts. -/
def parse (s : List Char) : Address :=
  let s := trim s
  let (scheme, rest) := splitScheme s
  let slashes := startsWith ['/', '/'] rest && !isHostless scheme
  let rest := if slashes then rest.drop 2 else rest
  let hasHost := !isHostless scheme &&
    (slashes || (!scheme.isEmpty && !isSlashed scheme))
  if hasHost then
    let zone := rest.takeWhile (!endsHost ·)
    let (credentials, rest) :=
      match splitCredentials zone with
      | some (user, after) => (user, after ++ rest.drop zone.length)
      | none => ([], rest)
    let before := rest.takeWhile (!isNoHostChar ·)
    let hostText := if before.getLast? = some ':' then before.dropLast else before
    let rest := rest.drop hostText.length
    let (host, portDigits) := splitPort hostText
    let bracketed := isBracketed host
    let (kept, left) := if bracketed then ([host], []) else trimHost [] (splitOn '.' host)
    let host := joinWith ['.'] kept
    let rest := joinWith ['.'] left ++ rest
    let host := if 255 < host.length then [] else host
    let host := if bracketed then (host.drop 1).dropLast else host
    let (path, query, fragment) := splitTail rest
    ⟨scheme, slashes, credentials, host, portDigits, path, query, fragment⟩
  else
    let (path, query, fragment) := splitTail rest
    ⟨scheme, slashes, [], [], [], path, query, fragment⟩

end Url
end Folio
