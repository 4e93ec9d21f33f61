import BsonTable.Number.Binary
import BsonTable.Text.Numeral

/-! IEEE 754 decimal128 numbers in the binary integer encoding. -/

namespace BsonTable

/-- A 128-bit decimal number, held as its word. -/
structure Decimal128 where
  word : BitVec 128
deriving Repr, DecidableEq

/-- What the word of a decimal stands for. -/
inductive DecimalDatum where
  | nan
  | infinite (negative : Bool)
  /-- The coefficient times ten to the exponent. -/
  | finite (negative : Bool) (coefficient : Nat) (exponent : Int)
deriving Repr, DecidableEq

namespace Decimal128

/-- The greatest coefficient, thirty-four nines. -/
def maxCoefficient : Nat := Nat.pow 10 34 - 1

/-- The exponent that an exponent field of zero stands for. -/
def leastExponent : Int := -6176

/-- A coefficient above the greatest one counts as zero. -/
def canonicalCoefficient (coefficient : Nat) : Nat :=
  -- Such words are not refused, as they are valid words for zero.
  if coefficient ≤ maxCoefficient then coefficient else 0

/-- The datum that the word stands for. -/
def datum (x : Decimal128) : DecimalDatum :=
  let word := x.word.toNat
  let negative := decide (Nat.pow 2 127 ≤ word)
  -- Five bits tell which kind of number it is.
  let combination := word / Nat.pow 2 122 % 32
  if combination = 31 then .nan
  else if combination = 30 then .infinite negative
  else if 24 ≤ combination then
    -- The field starts two bits later, behind a leading one that overflows the coefficient.
    let exponent : Int := (word / Nat.pow 2 111 % Nat.pow 2 14 : Nat) + leastExponent
    .finite negative (canonicalCoefficient (Nat.pow 2 113 + word % Nat.pow 2 111)) exponent
  else
    let exponent : Int := (word / Nat.pow 2 113 % Nat.pow 2 14 : Nat) + leastExponent
    .finite negative (canonicalCoefficient (word % Nat.pow 2 113)) exponent

/-- The word of a finite number whose fields are in range. -/
def ofFields (negative : Bool) (coefficient : Nat) (exponent : Int) : Decimal128 :=
  -- With a coefficient in range its field does not reach the bits of the exponent.
  let sign := if negative then Nat.pow 2 127 else 0
  ⟨BitVec.ofNat 128 (sign + (exponent - leastExponent).toNat * Nat.pow 2 113 + coefficient)⟩

/-- The quiet NaN. -/
def nan : Decimal128 := ⟨BitVec.ofNat 128 (31 * Nat.pow 2 122)⟩

/-- The infinity of a sign. -/
def infinity (negative : Bool) : Decimal128 :=
  ⟨BitVec.ofNat 128 ((if negative then Nat.pow 2 127 else 0) + 30 * Nat.pow 2 122)⟩

/-- The exponent of ten of the leading digit of a coefficient. -/
def adjustedExponent (coefficient : Nat) (exponent : Int) : Int :=
  -- The digits behind the leading one raise its exponent.
  exponent + (Text.numeral coefficient).length - 1

/-- Digits are written plainly while the exponent is not positive and the number not tiny. -/
def isPlain (coefficient : Nat) (exponent : Int) : Bool :=
  -- A positive exponent would need zeros that are no digits of the coefficient.
  exponent ≤ 0 ∧ -6 ≤ adjustedExponent coefficient exponent

/-- Text of a coefficient with a number of its digits behind the point. -/
def writePlain (coefficient places : Nat) : List Char :=
  if places = 0 then Text.numeral coefficient
  else
    -- There is always a digit in front of the point, a zero if there is no other.
    let digits := Text.paddedNumeral (places + 1) coefficient
    digits.take (digits.length - places) ++ '.' :: digits.drop (digits.length - places)

/-- Text with one digit in front of the point and the adjusted exponent. -/
def writeScientific (coefficient : Nat) (exponent : Int) : List Char :=
  let digits := Text.numeral coefficient
  let fraction := if digits.length ≤ 1 then [] else '.' :: digits.drop 1
  let adjusted := adjustedExponent coefficient exponent
  -- A negative exponent brings its own sign.
  let plus := if 0 < adjusted then ['+'] else []
  digits.take 1 ++ fraction ++ 'E' :: plus ++ Text.signedNumeral adjusted

/-- Text of a decimal, which tells apart every sign, coefficient and exponent. -/
def text (x : Decimal128) : List Char :=
  match x.datum with
  | .nan => "NaN".toList
  | .infinite negative => Text.withMinus negative "Infinity".toList
  | .finite negative coefficient exponent =>
    Text.withMinus negative <|
      if isPlain coefficient exponent then writePlain coefficient (-exponent).toNat
      else writeScientific coefficient exponent

/-- The nearest double. -/
def toBinary64 (x : Decimal128) : Binary64 :=
  match x.datum with
  | .nan => .nan
  | .infinite negative => .infinity negative
  | .finite negative coefficient exponent => .ofDecimal negative coefficient exponent

end Decimal128

end BsonTable
