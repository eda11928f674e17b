/-
  SmallSql.Json.Magnitude
  ────────────────────────────────
  How large a written number is to a reader that keeps a double: the digits that fit into 64 bits,
  and a power of ten.

      digits  ──▶  significand · 10 ^ exponent  ──▶  two doubles, multiplied

  Significand and power are each rounded before they are multiplied, and the product is rounded once
  more.  So the numbers that are out of range begin near the largest double, but not for every
  spelling at the same value: `isHuge` follows the reader and not the value.
-/
import SmallSql.Cell

namespace SmallSql.Json

/-! ## §1. Doubles. -/

/-- The distance of neighbouring doubles at a whole number. -/
def doubleUnit (n : Nat) : Nat := Nat.pow 2 (n.log2 - 52)

/-- The double nearest to a whole number, of two the one with the even significand.  The range is
not taken into account. -/
def nearestDouble (n : Nat) : Nat :=
  let below := n / doubleUnit n
  let part := n % doubleUnit n
  let up := doubleUnit n < 2 * part || (2 * part = doubleUnit n && below % 2 = 1)
  (if up then below + 1 else below) * doubleUnit n

/-- The least product that rounds beyond the largest double. -/
def hugeFrom : Nat := Nat.pow 2 1024 - Nat.pow 2 970

/-! ## §2. Written numbers. -/

/-- A number of the size `significand` times ten to the `exponent`. -/
structure Magnitude where
  significand : Nat
  exponent : Int
deriving DecidableEq, Repr

namespace Magnitude

/-- What a significand stays below. -/
def bound : Nat := Nat.pow 2 64

/-- Adds digits to a significand up to the first that does not fit any more; the digits left over
begin with that one. -/
def fill (significand : Nat) : List Char → Nat × List Char
  | [] => (significand, [])
  | c :: rest =>
    let next := 10 * significand + (c.toNat - '0'.toNat)
    if next < bound then fill next rest else (significand, c :: rest)

/-- The magnitude of a number with these digits before and behind the point.  Digits before the
point that do not fit count as zeros, those behind it as nothing. -/
def ofDigits (whole fraction : List Char) (exponent : Int) : Magnitude :=
  let (front, uncounted) := fill 0 whole
  let (significand, dropped) := fill front fraction
  { significand, exponent := exponent + uncounted.length - (fraction.length - dropped.length) }

/-- The largest power of ten that is a double. -/
def largestPower : Nat := 308

/-- Whether a number is beyond the doubles. -/
def isHuge (m : Magnitude) : Bool :=
  if m.significand = 0 || m.exponent < 0 then false
  else if m.exponent > largestPower then true
  else hugeFrom ≤ nearestDouble m.significand * nearestDouble (Nat.pow 10 m.exponent.toNat)

end Magnitude

end SmallSql.Json
