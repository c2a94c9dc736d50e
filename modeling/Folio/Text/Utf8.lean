import Folio.Text.Quoted

/-!
# UTF-8

Text is kept in files as bytes. Bytes that are no text are reported with their place, or
shown as a replacement for each stretch that could not be read.
-/

namespace Folio
namespace Text

/-- The bytes of a character in UTF-8. -/
def utf8 (c : Char) : List Nat :=
  let n := c.toNat
  if n < 0x80 then [n]
  else if n < 0x800 then [0xC0 + n / 0x40, 0x80 + n % 0x40]
  else if n < 0x10000 then [0xE0 + n / 0x1000, 0x80 + n / 0x40 % 0x40, 0x80 + n % 0x40]
  else
    [0xF0 + n / 0x40000, 0x80 + n / 0x1000 % 0x40, 0x80 + n / 0x40 % 0x40, 0x80 + n % 0x40]

/-- Whether a byte continues a character. -/
def isContinuation (b : Nat) : Bool :=
  b / 0x40 = 2

/-- The character that stands for bytes which are none. -/
def replacement : Char := Char.ofNat 0xFFFD

/-- The bytes of a text. -/
def utf8Bytes (s : List Char) : List Nat :=
  s.flatMap utf8

/-- Why bytes are no text. -/
inductive Utf8Reason where
  /-- A byte that starts no character. -/
  | start
  /-- A character that is not continued as it should be. -/
  | continuation
  /-- A character that is cut off by the end. -/
  | truncated
  deriving DecidableEq, Repr

/-- A stretch of bytes that is no text. -/
structure Utf8Fault where
  position : Nat
  length : Nat
  firstByte : Nat
  reason : Utf8Reason
  deriving DecidableEq, Repr

/-- What starts with a byte: a character or a fault, and the count of its bytes. -/
inductive Utf8Unit where
  | char (c : Char) (length : Nat)
  | fault (reason : Utf8Reason) (length : Nat)
  deriving DecidableEq, Repr

/-- How many bytes continue the character that a byte starts. -/
def continuations? (b : Nat) : Option Nat :=
  if b < 0x80 then some 0
  else if b < 0xC2 then none
  else if b < 0xE0 then some 1
  else if b < 0xF0 then some 2
  else if b < 0xF5 then some 3
  else none

/-- Whether a byte may come second. Some first bytes allow fewer, so that there is one
form for each character and none for surrogates. -/
def isSecond (b c : Nat) : Bool :=
  isContinuation c &&
    (if b = 0xE0 then Nat.ble 0xA0 c
     else if b = 0xED then Nat.blt c 0xA0
     else if b = 0xF0 then Nat.ble 0x90 c
     else if b = 0xF4 then Nat.blt c 0x90
     else true)

/-- The bytes after the first one that continue its character. -/
def continued (b : Nat) : List Nat -> List Nat
  | [] => []
  | c :: rest => if isSecond b c then c :: rest.takeWhile isContinuation else []

/-- The code that bytes stand for; `bits` of the first byte belong to it. -/
def codeOf (b count : Nat) (more : List Nat) : Nat :=
  let first := if count = 0 then b else b % Nat.pow 2 (6 - count)
  more.foldl (fun n c => n * 0x40 + c % 0x40) first

/-- Read the character that a byte starts. -/
def unitAt (b : Nat) (rest : List Nat) : Utf8Unit :=
  match continuations? b with
  | none => .fault .start 1
  | some count =>
      let wanted := rest.take count
      let more := continued b wanted
      if more.length = count then .char (Char.ofNat (codeOf b count more)) (count + 1)
      else if more.length = rest.length then .fault .truncated (more.length + 1)
      else .fault .continuation (more.length + 1)

/-- Read bytes from a position on; `skip` of them are still to be passed over. -/
def readUtf8 (position skip : Nat) : List Nat -> List (Except Utf8Fault Char)
  | [] => []
  | b :: rest =>
      match skip with
      | n + 1 => readUtf8 (position + 1) n rest
      | 0 =>
          match unitAt b rest with
          | .char c length => .ok c :: readUtf8 (position + 1) (length - 1) rest
          | .fault reason length =>
              .error ⟨position, length, b, reason⟩ :: readUtf8 (position + 1) (length - 1) rest

/-- The text of bytes, or their first fault. -/
def decodeUtf8 (bytes : List Nat) : Except Utf8Fault (List Char) :=
  (readUtf8 0 0 bytes).mapM id

/-- The text of bytes, with replacements for faults. -/
def decodeUtf8Lossy (bytes : List Nat) : List Char :=
  (readUtf8 0 0 bytes).map fun
    | .ok c => c
    | .error _ => replacement

namespace Utf8Reason

/-- A reason in words. -/
def text : Utf8Reason -> List Char
  | start => "invalid start byte".toList
  | continuation => "invalid continuation byte".toList
  | truncated => "unexpected end of data".toList

end Utf8Reason

/-- What is said of a fault. -/
def Utf8Fault.message (f : Utf8Fault) : List Char :=
  "'utf-8' codec can't decode ".toList ++
    (if f.length = 1 then
      "byte 0x".toList ++ hexDigits 2 f.firstByte ++ " in position ".toList ++
        Nat.toDigits 10 f.position
    else
      "bytes in position ".toList ++ Nat.toDigits 10 f.position ++ ['-'] ++
        Nat.toDigits 10 (f.position + f.length - 1)) ++
    ": ".toList ++ f.reason.text

/-- Bring all ends of lines into one form. -/
def unifyLineEnds : List Char -> List Char
  | [] => []
  | '\r' :: '\n' :: rest => '\n' :: unifyLineEnds rest
  | '\r' :: rest => '\n' :: unifyLineEnds rest
  | c :: rest => c :: unifyLineEnds rest

end Text
end Folio
