import BsonTable.Number.Decimal128

/-! Decimal128 numbers read from text, as long as no digit has to be rounded away. -/

namespace BsonTable.Decimal128

/-- The least and greatest exponents of a coefficient of any length. -/
def exponentRange : Int × Int := (leastExponent, 6111)

/-- Whether a number fits into a signed 16-bit word. -/
def isShort (value : Int) : Bool :=
  -- Exponents are counted in such words, and one that overflows is refused.
  -32768 ≤ value ∧ value ≤ 32767

/-- The first digits, provided that the others are all zero. -/
def keepDigits? (digits : List Char) (count : Nat) : Option (List Char) :=
  -- Zeros carry no information, so they may be dropped; any other digit would be lost.
  if count ≤ digits.length ∧ (digits.drop count).all (· == '0') then some (digits.take count)
  else none

/-- Shorten a coefficient of more than thirty-four digits by its trailing zeros. -/
def limitDigits? (digits : List Char) (exponent : Int) : Option (List Char × Int) :=
  if digits.length ≤ 34 then some (digits, exponent)
  -- Each zero that is dropped raises the exponent by one.
  else do return (← keepDigits? digits 34, exponent + (digits.length - 34 : Nat))

/-- Bring a small exponent into range by dropping zeros. -/
def raiseExponent? (digits : List Char) (exponent : Int) : Option (List Char × Int) :=
  let least := exponentRange.1
  if least ≤ exponent then some (digits, exponent)
  -- A zero stays zero with any exponent, so its exponent is simply brought into range.
  else if digits = ['0'] then some (digits, least)
  else do
    let surplus := (least - exponent).toNat
    guard (surplus ≤ digits.length)
    return (← keepDigits? digits (digits.length - surplus), least)

/-- Bring a great exponent into range by adding zeros. -/
def lowerExponent? (digits : List Char) (exponent : Int) : Option (List Char × Int) :=
  let greatest := exponentRange.2
  if exponent ≤ greatest then some (digits, exponent)
  else if digits = ['0'] then some (digits, greatest)
  else do
    let missing := (exponent - greatest).toNat
    -- There must be room for the zeros in front of the limit of thirty-four digits.
    guard (digits.length + missing ≤ 34)
    return (digits ++ List.replicate missing '0', greatest)

/-- The digits of a coefficient without leading zeros, and the number of digits after the point. -/
def splitPoint (cs : List Char) : List Char × Nat :=
  let whole := cs.takeWhile (· ≠ '.')
  let fraction := (cs.dropWhile (· ≠ '.')).drop 1
  -- Leading zeros do not count as digits of the coefficient, but places behind the point do.
  let digits := (whole ++ fraction).dropWhile (· == '0')
  (if digits.isEmpty then ['0'] else digits, fraction.length)

/-- A finite number in lower case. -/
def ofFiniteText? (negative : Bool) (cs : List Char) : Option Decimal128 := do
  let exponent ← match cs.dropWhile (· ≠ 'e') with
    | [] => some 0
    | _ :: digits => Text.readInteger? digits
  -- The exponent is tested before the places are subtracted, and once more behind that.
  guard (isShort exponent)
  let (digits, places) := splitPoint (cs.takeWhile (· ≠ 'e'))
  guard (isShort places && isShort (exponent - places))
  let (digits, exponent) ← limitDigits? digits (exponent - places)
  guard (isShort exponent)
  let (digits, exponent) ← raiseExponent? digits exponent
  let (digits, exponent) ← lowerExponent? digits exponent
  -- A sign in front of the digits is taken off a second time, so two signs are accepted.
  let coefficient ← Text.readNumeral? (if digits.head? = some '+' then digits.drop 1 else digits)
  return ofFields negative coefficient exponent

/-- A number, an infinity or a NaN, whatever the case of its letters. -/
def ofText? (text : String) : Option Decimal128 :=
  let (negative, cs) := Text.splitSign text.toList
  -- Names and the mark of an exponent are recognized in both cases.
  let lower := cs.map Char.toLower
  if lower = "nan".toList ∨ lower = "snan".toList then some nan
  else if lower = "infinity".toList ∨ lower = "inf".toList then some (infinity negative)
  else ofFiniteText? negative lower

end BsonTable.Decimal128
