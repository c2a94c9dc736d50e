import Folio.Number.Decimal

/-!
# Shortest digits

A machine number stands for all the reals that round to it. Written in full it gets
the fewest digits that still name one of those reals, and of the candidates with
that many digits the one nearest to its exact value.
-/

namespace Folio
namespace Number

/-- A positive machine number `mantissa * 2 ^ exponent` with the gap below it. -/
structure Binary where
  mantissa : Nat
  exponent : Int
  /-- Whether the next number below is only half as far away as the next above. -/
  narrowBelow : Bool
  deriving DecidableEq, Repr

/-- The exact value as a ratio. -/
def Binary.ratio (b : Binary) : Nat × Nat :=
  if b.exponent < 0 then
    (b.mantissa, Nat.pow 2 (-b.exponent).toNat)
  else
    (b.mantissa * Nat.pow 2 b.exponent.toNat, 1)

/-- Whether `digits * 10 ^ e` rounds to the machine number. -/
def Binary.reads (b : Binary) (digits : Nat) (e : Int) : Bool :=
  -- all sides are scaled by four so that a quarter of a gap is whole
  let (num, den) := b.ratio
  let unit := if b.exponent < 0 then 1 else Nat.pow 2 b.exponent.toNat
  let (point, scale) := if e < 0 then (digits, Nat.pow 10 (-e).toNat) else (digits * Nat.pow 10 e.toNat, 1)
  let low := 4 * num - (if b.narrowBelow then unit else 2 * unit)
  let high := 4 * num + 2 * unit
  let x := 4 * point * den
  if b.mantissa % 2 = 0 then
    Nat.ble (low * scale) x && Nat.ble x (high * scale)
  else
    Nat.blt (low * scale) x && Nat.blt x (high * scale)

/-- The candidate with `count` digits, if one of the two neighbours on that grid
reads back. -/
def Binary.candidate? (b : Binary) (count : Nat) : Option Decimal :=
  let (num, den) := b.ratio
  let e := orderOf num den - (count - 1 : Nat)
  let (n, d) := scaleBy num den e
  let near := roundDiv n d
  let other := if n < near * d then near - 1 else near + 1
  if b.reads near e then some ⟨near, e⟩
  else if b.reads other e then some ⟨other, e⟩
  else none

/-- Try the counts of digits from `count` on. -/
def Binary.search (b : Binary) (count : Nat) : Nat -> Decimal
  | 0 => let (num, den) := b.ratio; significant 17 num den
  | fuel + 1 =>
      match b.candidate? count with
      | some d => d
      | none => b.search (count + 1) fuel

/-- The fewest digits that read back, nearest to the exact value. -/
def Binary.shortest (b : Binary) : Decimal :=
  b.search 1 17

/-- Numbers written in full: a point is kept, and sixteen digits before the point
are the most. -/
def fullStyle : Style where
  scientificFrom := 16
  keepsPoint := true

end Number
end Folio
