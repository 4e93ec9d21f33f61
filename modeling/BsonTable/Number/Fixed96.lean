import BsonTable.Number.Decimal128

/-! Fixed-point decimals with a 96-bit mantissa and at most twenty-eight decimal places. -/

namespace BsonTable

/-- A signed mantissa with its number of decimal places. -/
structure Fixed96 where
  negative : Bool
  mantissa : Nat
  scale : Nat
  -- The bounds are part of the number, so every one that can be made is in range.
  mantissa_lt : mantissa < Nat.pow 2 96 := by decide
  scale_le : scale ≤ 28 := by decide
deriving DecidableEq

namespace Fixed96

/-- Zero without decimal places. -/
def zero : Fixed96 := { negative := false, mantissa := 0, scale := 0 }

/-- One without decimal places. -/
def one : Fixed96 := { negative := false, mantissa := 1, scale := 0 }

/-- The number with these fields, if they are in range. -/
def ofFields? (negative : Bool) (mantissa scale : Nat) : Option Fixed96 :=
  -- A number out of range is none, rather than one that wraps.
  if h : mantissa < Nat.pow 2 96 ∧ scale ≤ 28 then
    some { negative, mantissa, scale, mantissa_lt := h.1, scale_le := h.2 }
  else none

/-- A 64-bit integer without decimal places. -/
def ofInt64 (value : Int64) : Fixed96 where
  negative := decide (value.toInt < 0)
  mantissa := value.toInt.natAbs
  scale := 0
  mantissa_lt := by
    -- The magnitude of the least integer is no 64-bit integer, but it has room here.
    have lower := value.le_toInt
    have upper := value.toInt_lt
    show value.toInt.natAbs < 2 ^ 96
    omega

/-- Text with every decimal place of the scale. -/
def text (x : Fixed96) : List Char :=
  -- Trailing zeros are written too, as the scale is part of the number.
  (if x.negative then ['-'] else []) ++ Decimal128.writePlain x.mantissa x.scale

/-- The integer part, toward zero. -/
def truncate (x : Fixed96) : Int :=
  -- Dividing the magnitude cuts off toward zero, whatever the sign is.
  let magnitude : Int := (x.mantissa / Nat.pow 10 x.scale : Nat)
  if x.negative then -magnitude else magnitude

/-- The integer part as a 64-bit integer, if it is one. -/
def toInt64? (x : Fixed96) : Option Int64 :=
  -- What has too many digits for the word is no 64-bit integer, and is not cut off.
  if -(Nat.pow 2 63 : Int) ≤ x.truncate ∧ x.truncate < Nat.pow 2 63 then
    some (Int64.ofInt x.truncate)
  else none

end Fixed96

end BsonTable
