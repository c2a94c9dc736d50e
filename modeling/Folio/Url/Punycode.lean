import Folio.Text.Search
import Folio.Text.Case

/-!
# Host names in ASCII

A part of a host name with other characters is written in ASCII as its plain
characters, a hyphen, and a run of letters and digits that says which characters go
where. The run is a list of numbers of variable length whose thresholds adapt to the
size of the numbers before.
-/

namespace Folio
namespace Url

open Text

/-- The digit for a value: letters first, then numerals. -/
def punyDigit (n : Nat) : Char :=
  Char.ofNat (if n < 26 then n + 97 else n - 26 + 48)

/-- The value of a digit, of either case. -/
def punyValue? (c : Char) : Option Nat :=
  let n := c.toNat
  if 65 ≤ n ∧ n ≤ 90 then some (n - 65)
  else if 97 ≤ n ∧ n ≤ 122 then some (n - 97)
  else if 48 ≤ n ∧ n ≤ 57 then some (n - 48 + 26)
  else none

/-- The threshold of the digit at a place. -/
def punyThreshold (place bias : Nat) : Nat :=
  let k := 36 * (place + 1)
  if k ≤ bias then 1 else if bias + 26 ≤ k then 26 else k - bias

/-- Each digit has at least one value that ends a number. -/
theorem punyThreshold_pos (place bias : Nat) : 0 < punyThreshold place bias := by
  unfold punyThreshold
  simp only
  split
  · omega
  · split <;> omega

/-- Divide until the number is small, and count the divisions. -/
def punyScale (count delta : Nat) : Nat × Nat :=
  if 455 < delta then punyScale (count + 36) (delta / 35) else (count, delta)
termination_by delta
decreasing_by exact Nat.div_lt_self (by omega) (by omega)

/-- The bias after a number. -/
def punyAdapt (delta : Nat) (first : Bool) (chars : Nat) : Nat :=
  let delta := if first then delta / 700 else delta / 2
  let delta := delta + delta / chars
  let (count, delta) := punyScale 0 delta
  count + 36 * delta / (delta + 38)

/-- A number in digits of variable length. -/
def punyNumber (bias place n : Nat) : List Char :=
  let t := punyThreshold place bias
  if n < t then
    [punyDigit n]
  else
    punyDigit (t + (n - t) % (36 - t)) :: punyNumber bias (place + 1) ((n - t) / (36 - t))
termination_by n
decreasing_by
  have h := punyThreshold_pos place bias
  exact Nat.lt_of_le_of_lt (Nat.div_le_self _ _) (by omega)

/-- Where the next number stands when characters are inserted one after the other. -/
structure PunyState where
  /-- The number of the next insertion. -/
  delta : Nat
  bias : Nat
  /-- How many characters have been placed. -/
  placed : Nat
  /-- Whether no insertion has been written. -/
  first : Bool
  written : List Char

/-- Go through a text for the insertions of one character. -/
def punyPass (target : Nat) (s : PunyState) : List Char -> PunyState
  | [] => s
  | c :: rest =>
      if c.toNat < target then
        punyPass target { s with delta := s.delta + 1 } rest
      else if c.toNat = target then
        punyPass target
          { delta := 0
            bias := punyAdapt s.delta s.first (s.placed + 1)
            placed := s.placed + 1
            first := false
            written := s.written ++ punyNumber s.bias 0 s.delta } rest
      else
        punyPass target s rest

/-- Insert the characters of a list, from the smallest on. -/
def punyInsert (text : List Char) (last : Nat) (s : PunyState) : List Nat -> PunyState
  | [] => s
  | target :: rest =>
      let s := { s with delta := s.delta + (target - last - 1) * (s.placed + 1) }
      let s := punyPass target s text
      punyInsert text target { s with delta := s.delta + 1 } rest

/-- Put a number into a sorted list that holds each number once. -/
def insertOnce (n : Nat) : List Nat -> List Nat
  | [] => [n]
  | m :: rest => if n < m then n :: m :: rest else if n = m then m :: rest else m :: insertOnce n rest

/-- A part of a host name in ASCII, without the mark in front. -/
def punyEncode (s : List Char) : List Char :=
  let plain := s.filter fun c => c.toNat < 0x80
  let others := (s.filter fun c => !(c.toNat < 0x80)).foldl (fun l c => insertOnce c.toNat l) []
  let out := (punyInsert s 0x7F ⟨0, 72, plain.length, true, []⟩ others).written
  if plain.isEmpty then out else plain ++ '-' :: out

/-- Read a number in digits of variable length. -/
def punyRead? (bias : Nat) (place weight n : Nat) : List Char -> Option (Nat × List Char)
  | [] => none
  | c :: rest => do
      let digit <- punyValue? c
      let t := punyThreshold place bias
      let n := n + digit * weight
      if digit < t then
        some (n, rest)
      else
        punyRead? bias (place + 1) (weight * (36 - t)) n rest

/-- Reading a number uses up digits. -/
theorem length_lt_of_punyRead? {bias place weight n value : Nat} {s rest : List Char}
    (h : punyRead? bias place weight n s = some (value, rest)) : rest.length < s.length := by
  induction s generalizing place weight n with
  | nil => simp [punyRead?] at h
  | cons c r ih =>
      cases hd : punyValue? c with
      | none => simp [punyRead?, hd] at h
      | some digit =>
          simp only [punyRead?, hd, Option.bind_eq_bind, Option.bind_some] at h
          split at h
          · simp only [Option.some.injEq, Prod.mk.injEq] at h
            simp [h.2]
          · exact Nat.lt_succ_of_lt (ih h)

/-- Insert the characters that a run of digits names. -/
def punyDecodeRun? (text : List Char) (code position bias : Nat) (first : Bool)
    (s : List Char) : Option (List Char) :=
  if s.isEmpty then
    some text
  else
    match h : punyRead? bias 0 1 0 s with
    | none => none
    | some (delta, rest) =>
        let total := position + delta
        let size := text.length + 1
        let code := code + total / size
        let position := total % size
        if 0x10FFFF < code then none
        else
          punyDecodeRun? (text.take position ++ Char.ofNat code :: text.drop position) code
            (position + 1) (punyAdapt delta first size) false rest
termination_by s.length
decreasing_by exact length_lt_of_punyRead? h

/-- The part of a host name that a run in ASCII stands for. -/
def punyDecode? (s : List Char) : Option (List Char) :=
  if s.all fun c => c.toNat < 0x80 then
    let tail := (s.reverse.takeWhile (· ≠ '-')).reverse
    let plain := if tail.length = s.length then [] else s.take (s.length - tail.length - 1)
    punyDecodeRun? plain 0x80 0 72 true tail
  else
    none

/-- The full stops that part a host name. -/
def isLabelStop (c : Char) : Bool :=
  c.toNat = 0x2E || c.toNat = 0x3002 || c.toNat = 0xFF0E || c.toNat = 0xFF61

/-- Cut a host name at its full stops. -/
def labels (s : List Char) : List (List Char) :=
  splitOn '.' (s.map fun c => if isLabelStop c then '.' else c)

/-- Change the parts of a host name; a name in front of an at sign stays. -/
def mapLabels (f : List Char -> Option (List Char)) (host : List Char) : Option (List Char) :=
  match splitOn '@' host with
  | user :: domain :: _ =>
      ((labels domain).mapM f).map fun parts => user ++ '@' :: joinWith ['.'] parts
  | _ => ((labels host).mapM f).map (joinWith ['.'])

/-- A host name in ASCII. -/
def hostToAscii (host : List Char) : Option (List Char) :=
  mapLabels
    (fun part =>
      some (if part.any fun c => 0x7E < c.toNat then "xn--".toList ++ punyEncode part else part))
    host

/-- A host name as it is shown. -/
def hostToShown (host : List Char) : Option (List Char) :=
  mapLabels
    (fun part =>
      match dropPrefix? "xn--".toList part with
      | some rest => punyDecode? (lower rest)
      | none => some part)
    host

end Url
end Folio
