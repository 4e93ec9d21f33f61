import BsonTable.Number.Binary
import BsonTable.Text.Ascii
import BsonTable.Text.Numeral

/-! Decimal literals and the doubles that they name. -/

namespace BsonTable

/-- The number nearest to a decimal, decided by its magnitude when the exponent is extreme. -/
def Binary64.ofAnyDecimal (negative : Bool) (coefficient : Nat) (exponent : Int) : Binary64 :=
  -- The exponent of ten behind the leading digit tells how great the number is.
  let leading := exponent + (Text.numeral coefficient).length
  -- Past these bounds every digit leads to the same word.
  if coefficient = 0 ∨ leading < -400 then .ofRatio negative 0 1
  else if 400 < leading then .infinity negative
  else .ofDecimal negative coefficient exponent

/-- Digits with at most one point, as a coefficient and the number of digits after the point. -/
def readPointed? (cs : List Char) : Option (Nat × Nat) := do
  -- The digits on both sides of the point are one coefficient.
  let whole := cs.takeWhile Char.isDigit
  match cs.dropWhile Char.isDigit with
  | [] => return (← Text.readNumeral? whole, 0)
  | '.' :: fraction =>
    guard (fraction.all Char.isDigit)
    return (← Text.readNumeral? (whole ++ fraction), fraction.length)
  | _ => none

/-- A decimal literal: digits with an optional sign, point and exponent, or a named value. -/
def Binary64.ofLiteral? (text : String) : Option Binary64 := do
  let (negative, cs) := Text.splitSign text.toList
  let lower := cs.map Char.toLower
  if lower = "nan".toList then return .nan
  if lower = "inf".toList ∨ lower = "infinity".toList then return .infinity negative
  -- The number is split at the mark before either part is read.
  let mantissa := lower.takeWhile (· ≠ 'e')
  let exponent ← match lower.dropWhile (· ≠ 'e') with
    | [] => some (0 : Int)
    | _ :: digits => Text.readInteger? digits
  let (coefficient, places) ← readPointed? mantissa
  return .ofAnyDecimal negative coefficient (exponent - places)

end BsonTable
