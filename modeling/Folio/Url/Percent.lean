import Folio.Text.Search
import Folio.Text.Utf8
import Folio.Html.Entity

/-!
# Percent escapes

Characters that may not stand in an address are written as the bytes of their UTF-8
form, each as a percent sign and two hexadecimal digits. Reading them back keeps the
escapes of characters that would change the meaning of the address.
-/

namespace Folio
namespace Url

open Text Html Pattern

/-- A hexadecimal digit in upper case. -/
def upperHex (n : Nat) : Char :=
  (Nat.digitChar n).toUpper

/-- A byte as an escape. -/
def byteEscape (n : Nat) : List Char :=
  ['%', upperHex (n / 16), upperHex (n % 16)]

/-- A character as escapes. -/
def escapeChar (c : Char) : List Char :=
  (utf8 c).flatMap byteEscape

/-- Letters, digits and the marks that stand for themselves in an address. -/
def isPlain (c : Char) : Bool :=
  isAsciiLetter c || isAsciiDigit c || ";/?:@&=+$,-_.!~*'()#".toList.contains c

/-- Whether a character is a hexadecimal digit. -/
def isHex (c : Char) : Bool :=
  isAsciiDigit c || (Nat.ble 97 c.toNat && Nat.ble c.toNat 102) ||
    (Nat.ble 65 c.toNat && Nat.ble c.toNat 70)

/-- Escape what may not stand in an address; escapes that are there already stay. -/
def encode : List Char -> List Char
  | [] => []
  | '%' :: a :: b :: rest =>
      if isHex a && isHex b then
        '%' :: a :: b :: encode rest
      else
        byteEscape 0x25 ++ encode (a :: b :: rest)
  | c :: rest => (if isPlain c then [c] else escapeChar c) ++ encode rest

/-- The bytes of the escapes at the start of a text, and what follows them. -/
def escapedBytes : List Char -> List Nat × List Char
  | '%' :: a :: b :: rest =>
      if isHex a && isHex b then
        let more := escapedBytes rest
        ((16 * hexValue a + hexValue b) :: more.1, more.2)
      else
        ([], '%' :: a :: b :: rest)
  | s => ([], s)

/-- The character with a code, if it needs at least the given code for the length it was
written in; otherwise one replacement for each byte. -/
def decodedChar (least n bytes : Nat) : List Char :=
  if least ≤ n && n ≤ 0x10FFFF && !(0xD800 ≤ n && n ≤ 0xDFFF) then
    [Char.ofNat n]
  else
    List.replicate bytes replacement

/-- A byte below 0x80 read back: the marks of addresses keep their escapes. -/
def decodedByte (kept : List Char) (b : Nat) : List Char :=
  if kept.contains (Char.ofNat b) then byteEscape b else [Char.ofNat b]

/-- The text of a run of bytes. -/
def decodeBytes (kept : List Char) : List Nat -> List Char
  | [] => []
  | a :: rest =>
      if a < 0x80 then
        decodedByte kept a ++ decodeBytes kept rest
      else
        match rest with
        | b :: c :: d :: more =>
            if a / 0x20 = 6 && isContinuation b then
              decodedChar 0x80 (a % 0x20 * 0x40 + b % 0x40) 2 ++ decodeBytes kept (c :: d :: more)
            else if a / 0x10 = 14 && isContinuation b && isContinuation c then
              decodedChar 0x800 (a % 0x10 * 0x1000 + b % 0x40 * 0x40 + c % 0x40) 3 ++
                decodeBytes kept (d :: more)
            else if a / 0x08 = 30 && isContinuation b && isContinuation c &&
                isContinuation d then
              decodedChar 0x10000
                (a % 0x08 * 0x40000 + b % 0x40 * 0x1000 + c % 0x40 * 0x40 + d % 0x40) 4 ++
                decodeBytes kept more
            else
              replacement :: decodeBytes kept (b :: c :: d :: more)
        | [b, c] =>
            if a / 0x20 = 6 && isContinuation b then
              decodedChar 0x80 (a % 0x20 * 0x40 + b % 0x40) 2 ++ decodeBytes kept [c]
            else if a / 0x10 = 14 && isContinuation b && isContinuation c then
              decodedChar 0x800 (a % 0x10 * 0x1000 + b % 0x40 * 0x40 + c % 0x40) 3
            else
              replacement :: decodeBytes kept [b, c]
        | [b] =>
            if a / 0x20 = 6 && isContinuation b then
              decodedChar 0x80 (a % 0x20 * 0x40 + b % 0x40) 2
            else
              replacement :: decodeBytes kept [b]
        | [] => [replacement]

/-- The escapes that are kept when an address is shown. -/
def keptWhenShown : List Char :=
  ";/?:@&=+$,#%".toList

/-- Resolve escapes for showing an address; `skip` characters are still to be passed
over. -/
def decodeFrom (kept : List Char) (skip : Nat) : List Char -> List Char
  | [] => []
  | c :: rest =>
      match skip with
      | n + 1 => decodeFrom kept n rest
      | 0 =>
          match escapedBytes (c :: rest) with
          | ([], _) => c :: decodeFrom kept 0 rest
          | (bytes, _) => decodeBytes kept bytes ++ decodeFrom kept (3 * bytes.length - 1) rest

/-- An address as it is shown. -/
def decode (s : List Char) : List Char :=
  decodeFrom keptWhenShown 0 s

end Url
end Folio
