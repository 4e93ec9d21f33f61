/-! IEEE 754 binary formats as words, with exact ratios rounded to nearest and ties to even. -/

namespace BsonTable

/-- The field widths of a binary interchange format. -/
structure BinaryFormat where
  fractionBits : Nat
  exponentBits : Nat
deriving Repr, DecidableEq

/-- What a word of a binary format stands for. -/
inductive BinaryDatum where
  | nan
  | infinite (negative : Bool)
  /-- The number whose magnitude is the significand times two to the exponent. -/
  | finite (negative : Bool) (significand : Nat) (exponent : Int)
deriving Repr, DecidableEq

/-- The quotient rounded to the nearest integer, a tie going to the even neighbour. -/
def divideToNearestEven (num den : Nat) : Nat :=
  let quotient := num / den
  -- Twice the remainder is compared with the divisor, so a tie is exact.
  let twice := 2 * (num % den)
  if twice < den then quotient
  else if twice = den then quotient + quotient % 2
  else quotient + 1

/-- Divide a ratio by a power of a base, on whichever side keeps it exact. -/
def scaleRatio (base : Nat) (num den : Nat) (exponent : Int) : Nat × Nat :=
  -- A negative exponent multiplies instead, since a division would round.
  if 0 ≤ exponent then (num, den * Nat.pow base exponent.toNat)
  else (num * Nat.pow base (-exponent).toNat, den)

/-- The greatest exponent of two not above a positive ratio. -/
def ratioLog2 (num den : Nat) : Int :=
  -- The bit lengths leave two candidates, and one comparison decides between them.
  let estimate : Int := (num.log2 : Int) - den.log2
  let (n, d) := scaleRatio 2 num den estimate
  if n < d then estimate - 1 else estimate

namespace BinaryFormat

/-- The 64-bit format. -/
def double : BinaryFormat := ⟨52, 11⟩

/-- The 32-bit format. -/
def single : BinaryFormat := ⟨23, 8⟩

/-- The exponent field that infinities and NaNs share. -/
def topExponent (format : BinaryFormat) : Nat :=
  -- All bits of the field are set.
  Nat.pow 2 format.exponentBits - 1

/-- The power of two that the last place of a subnormal number counts. -/
def leastExponent (format : BinaryFormat) : Int :=
  2 - Nat.pow 2 (format.exponentBits - 1) - format.fractionBits

/-- The word of positive infinity. -/
def infinityWord (format : BinaryFormat) : Nat :=
  format.topExponent * Nat.pow 2 format.fractionBits

/-- The word of the quiet NaN without payload. -/
def nanWord (format : BinaryFormat) : Nat :=
  format.infinityWord + Nat.pow 2 (format.fractionBits - 1)

/-- The weight of the sign bit. -/
def signWeight (format : BinaryFormat) : Nat :=
  Nat.pow 2 (format.fractionBits + format.exponentBits)

/-- The word of the number nearest to a ratio, infinity when it lies beyond the format. -/
def roundWord (format : BinaryFormat) (num den : Nat) : Nat :=
  -- Zero has no leading digit, so it is no case of the general computation.
  if num = 0 then 0
  else
    -- Below the least exponent the number is subnormal, with fewer digits.
    let exponent := max (ratioLog2 num den - format.fractionBits) format.leastExponent
    let (n, d) := scaleRatio 2 num den exponent
    -- A carry out of the significand lands in the exponent field, as it should.
    let steps := (exponent - format.leastExponent).toNat
    min (steps * Nat.pow 2 format.fractionBits + divideToNearestEven n d) format.infinityWord

/-- Set the sign bit of a word that has none. -/
def withSign (format : BinaryFormat) (negative : Bool) (word : Nat) : Nat :=
  if negative then format.signWeight + word else word

/-- The datum that a word stands for. -/
def decode (format : BinaryFormat) (word : Nat) : BinaryDatum :=
  let negative := decide (format.signWeight ≤ word)
  let fraction := word % Nat.pow 2 format.fractionBits
  let field := word / Nat.pow 2 format.fractionBits % Nat.pow 2 format.exponentBits
  -- The top exponent is no exponent, and the lowest one is that of subnormal numbers.
  if field = format.topExponent then
    if fraction = 0 then .infinite negative else .nan
  else if field = 0 then .finite negative fraction format.leastExponent
  else
    .finite negative (Nat.pow 2 format.fractionBits + fraction) (format.leastExponent + field - 1)

end BinaryFormat

/-- A 32-bit binary number, held as its word. -/
structure Binary32 where
  word : UInt32
deriving Repr, DecidableEq

/-- A 64-bit binary number, held as its word. -/
structure Binary64 where
  word : UInt64
deriving Repr, DecidableEq

namespace Binary32

/-- The datum that the word stands for. -/
def datum (x : Binary32) : BinaryDatum :=
  BinaryFormat.single.decode x.word.toNat

end Binary32

namespace Binary64

/-- The datum that the word stands for. -/
def datum (x : Binary64) : BinaryDatum :=
  BinaryFormat.double.decode x.word.toNat

/-- A NaN without payload. -/
def nan : Binary64 := ⟨UInt64.ofNat BinaryFormat.double.nanWord⟩

/-- The infinity of a sign. -/
def infinity (negative : Bool) : Binary64 :=
  ⟨UInt64.ofNat (BinaryFormat.double.withSign negative BinaryFormat.double.infinityWord)⟩

/-- The number nearest to a signed ratio. -/
def ofRatio (negative : Bool) (num den : Nat) : Binary64 :=
  ⟨UInt64.ofNat (BinaryFormat.double.withSign negative (BinaryFormat.double.roundWord num den))⟩

/-- The number nearest to an integer. -/
def ofInt (value : Int) : Binary64 :=
  ofRatio (value < 0) value.natAbs 1

/-- Positive zero. -/
def zero : Binary64 := ⟨0⟩

/-- The number nearest to a signed coefficient times a power of ten. -/
def ofDecimal (negative : Bool) (coefficient : Nat) (exponent : Int) : Binary64 :=
  -- The power of ten is applied to the ratio exactly, before the one rounding that there is.
  let (num, den) := scaleRatio 10 coefficient 1 (-exponent)
  ofRatio negative num den

/-- Both zeros are zero, and nothing else is. -/
def isZero (x : Binary64) : Bool :=
  match x.datum with
  -- The sign does not matter, so there are two zeros.
  | .finite _ significand _ => significand == 0
  | _ => false

/-- Whether the word stands for no number at all. -/
def isNaN (x : Binary64) : Bool :=
  x.datum == .nan

/-- Equality of numbers: the two zeros are equal, and a NaN equals nothing. -/
def equal (left right : Binary64) : Bool :=
  -- A NaN is not even equal to itself.
  !left.isNaN && (left == right || (left.isZero && right.isZero))

/-- The integer part, toward zero, of a significand times a power of two. -/
def integerPart (significand : Nat) (exponent : Int) : Nat :=
  if 0 ≤ exponent then significand * Nat.pow 2 exponent.toNat
  else significand / Nat.pow 2 (-exponent).toNat

/-- The 64-bit integer nearest to an integer. -/
def clampToInt64 (value : Int) : Int64 :=
  -- Values beyond the bounds become the bounds.
  Int64.ofInt (max (-(Nat.pow 2 63 : Int)) (min value (Nat.pow 2 63 - 1)))

/-- Truncation toward zero that stops at the bounds of the target and sends NaN to zero. -/
def toInt64 (x : Binary64) : Int64 :=
  match x.datum with
  | .nan => 0
  | .infinite negative => clampToInt64 (if negative then -(Nat.pow 2 63 : Int) else Nat.pow 2 63)
  | .finite negative significand exponent =>
    let magnitude : Int := integerPart significand exponent
    -- The fraction is dropped before the bounds are looked at.
    clampToInt64 (if negative then -magnitude else magnitude)

/-- The nearest number of the 32-bit format. -/
def toBinary32 (x : Binary64) : Binary32 :=
  let single := BinaryFormat.single
  let word := match x.datum with
    | .nan => single.nanWord
    | .infinite negative => single.withSign negative single.infinityWord
    | .finite negative significand exponent =>
      -- The number is exact in the wider format, so there is one rounding to the narrower one.
      let (num, den) := scaleRatio 2 significand 1 (-exponent)
      single.withSign negative (single.roundWord num den)
  ⟨UInt32.ofNat word⟩

end Binary64

end BsonTable
