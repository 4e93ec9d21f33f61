import BsonTable.Number.Binary
import BsonTable.Text.Numeral

/-! The shortest decimal that reads back as a given binary number, and how it is laid out. -/

namespace BsonTable

/-- A coefficient times a power of ten. -/
structure ScaledDecimal where
  coefficient : Nat
  exponent : Int
deriving Repr, DecidableEq

/-- The exponent of ten of the leading digit of a positive ratio. -/
def ratioLog10 (num den : Nat) : Int :=
  -- The lengths of the numerals leave two candidates, as bit lengths do for powers of two.
  let estimate : Int := (Text.numeral num).length - (Text.numeral den).length
  let (n, d) := scaleRatio 10 num den estimate
  if n < d then estimate - 1 else estimate

namespace ScaledDecimal

/-- Move factors of ten from the coefficient to the exponent, at most a given number of them. -/
def trimZeros : Nat → ScaledDecimal → ScaledDecimal
  | 0, x => x
  | steps + 1, x =>
    if x.coefficient ≠ 0 ∧ x.coefficient % 10 = 0 then
      trimZeros steps ⟨x.coefficient / 10, x.exponent + 1⟩
    else x

/-- The exponent of ten of the leading digit. -/
def leading (x : ScaledDecimal) : Int :=
  -- The exponent is that of the last digit, and the leading one is as far in front as there are
  -- others.
  x.exponent + (Text.numeral x.coefficient).length - 1

end ScaledDecimal

/-- Which of two decimals at equal distance is taken. -/
inductive TieRule where
  /-- The greater magnitude. -/
  | up
  /-- The one whose last digit is even. -/
  | toEven
deriving Repr, DecidableEq

/-- The reals that round to a binary number, as quarters of its unit in the last place. -/
structure RoundingInterval where
  below : Nat
  value : Nat
  above : Nat
  /-- Whether the two ends round to the number as well. -/
  closed : Bool
  /-- The exponent of two of one quarter. -/
  exponent : Int

namespace RoundingInterval

/-- The interval around a nonzero double, which is lopsided at a power of two. -/
def ofDouble (significand : Nat) (exponent : Int) : RoundingInterval :=
  -- The numbers below a power of two are closer to each other than those above it.
  let narrow := significand = Nat.pow 2 BinaryFormat.double.fractionBits ∧
    exponent ≠ BinaryFormat.double.leastExponent
  { below := 4 * significand - (if narrow then 1 else 2)
    value := 4 * significand
    above := 4 * significand + 2
    -- An even significand gets the ties on both sides.
    closed := significand % 2 = 0
    exponent := exponent - 2 }

/-- Whether a point lies inside, when all three numbers are brought to one scale. -/
def contains (interval : RoundingInterval) (unit point : Nat) : Bool :=
  if interval.closed then interval.below * unit ≤ point ∧ point ≤ interval.above * unit
  else interval.below * unit < point ∧ point < interval.above * unit

/-- Whether the lower of two neighbouring points is the one to take, given twice the distances. -/
def prefersLower (tie : TieRule) (lower value middle : Nat) : Bool :=
  -- The point in the middle is compared with the value, and only a tie looks at the digits.
  value < middle || (value == middle && tie == .toEven && lower % 2 == 0)

/-- The point of a decimal grid inside the interval nearest to its value. -/
def nearestOnGrid? (interval : RoundingInterval) (tie : TieRule) (grid : Int) :
    Option ScaledDecimal :=
  -- One quarter is num / den grid steps, so cross multiplication keeps every test exact.
  let (num, den) := scaleRatio 2 1 1 (-interval.exponent)
  let (num, den) := scaleRatio 10 num den grid
  let lower := interval.value * num / den
  let fitsBelow := interval.contains num (lower * den)
  let fitsAbove := interval.contains num ((lower + 1) * den)
  -- With both neighbours inside, the nearer one is taken.
  if fitsBelow && fitsAbove then
    if prefersLower tie lower (2 * (interval.value * num)) ((2 * lower + 1) * den) then
      some ⟨lower, grid⟩
    else some ⟨lower + 1, grid⟩
  else if fitsBelow then some ⟨lower, grid⟩
  else if fitsAbove then some ⟨lower + 1, grid⟩
  else none

end RoundingInterval

/-- The fewest digits that read back as a nonzero double, and the nearest of those. -/
def shortestDecimal (tie : TieRule) (significand : Nat) (exponent : Int) : ScaledDecimal :=
  let interval := RoundingInterval.ofDouble significand exponent
  let (num, den) := scaleRatio 2 significand 1 (-exponent)
  let top := ratioLog10 num den
  -- Seventeen digits tell any two doubles apart, so one of these grids has a point inside.
  -- Grids are tried from the coarsest one on, so the first point has the fewest digits.
  let found := (List.range 17).findSome? fun (places : Nat) =>
    interval.nearestOnGrid? tie (top - places)
  (found.getD ⟨0, 0⟩).trimZeros 17

/-- How the digits of a double are laid out. -/
structure DoubleNotation where
  /-- Which exponents of the leading digit are written without an exponent. -/
  positional : Int → Bool
  tie : TieRule
  /-- What follows an integer written without an exponent. -/
  integerTail : String
  /-- What stands between the exponent mark and a nonnegative exponent. -/
  plus : String
  nan : String
  infinity : String

namespace DoubleNotation

/-- Text of a finite number in positional notation. -/
def writePositional (layout : DoubleNotation) (x : ScaledDecimal) : List Char :=
  let digits := Text.numeral x.coefficient
  -- Digits in front of the point are followed by zeros, and digits behind it are preceded by them.
  if 0 ≤ x.exponent then
    digits ++ List.replicate x.exponent.toNat '0' ++ layout.integerTail.toList
  else
    let places := (-x.exponent).toNat
    let filled := digits.leftpad (places + 1) '0'
    filled.take (filled.length - places) ++ '.' :: filled.drop (filled.length - places)

/-- Text of a finite number with one digit in front of the point and an exponent. -/
def writeScientific (layout : DoubleNotation) (x : ScaledDecimal) : List Char :=
  let digits := Text.numeral x.coefficient
  -- One digit has no fraction, and no point either.
  let fraction := if digits.length ≤ 1 then [] else '.' :: digits.drop 1
  let sign := if 0 ≤ x.leading then layout.plus.toList else []
  digits.take 1 ++ fraction ++ 'e' :: sign ++ Text.signedNumeral x.leading

/-- Text of any double. -/
def write (layout : DoubleNotation) (x : Binary64) : List Char :=
  match x.datum with
  | .nan => layout.nan.toList
  | .infinite negative => Text.withMinus negative layout.infinity.toList
  -- Zero has no leading digit, and is written in positional notation.
  | .finite negative 0 _ => Text.withMinus negative (layout.writePositional ⟨0, 0⟩)
  | .finite negative significand exponent =>
    let short := shortestDecimal layout.tie significand exponent
    Text.withMinus negative <|
      if layout.positional short.leading then layout.writePositional short
      else layout.writeScientific short

end DoubleNotation

end BsonTable
