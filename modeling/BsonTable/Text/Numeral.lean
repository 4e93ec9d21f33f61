/-! Decimal numerals, their padded forms, and the digits they are read back from. -/

namespace BsonTable.Text

/-- The character of a decimal digit. -/
def digitChar (digit : Nat) : Char :=
  Char.ofNat ('0'.toNat + digit)

/-- A natural number in decimal, without leading zeros. -/
def numeral (value : Nat) : List Char :=
  -- A single digit is written even for zero.
  if value < 10 then [digitChar value]
  else numeral (value / 10) ++ [digitChar (value % 10)]

/-- Text behind a minus sign, or as it is. -/
def withMinus (negative : Bool) (text : List Char) : List Char :=
  if negative then '-' :: text else text

/-- An integer in decimal, with a minus sign in front of a negative one. -/
def signedNumeral (value : Int) : List Char :=
  -- The sign is read off the integer, so zero has none.
  if value < 0 then '-' :: numeral value.natAbs else numeral value.natAbs

/-- A numeral filled with zeros on the left up to a width. -/
def paddedNumeral (width value : Nat) : List Char :=
  -- A longer numeral is left as it is, and nothing is cut off.
  (numeral value).leftpad width '0'

/-- The digit a character stands for. -/
def digitValue? (c : Char) : Option Nat :=
  if c.isDigit then some (c.toNat - '0'.toNat) else none

/-- Positional value of a run of digits, given the value of the digits before it. -/
def readDigits? (value : Nat) : List Char → Option Nat
  | [] => some value
  -- What was read so far moves one place up for each further digit.
  | c :: rest => do readDigits? (10 * value + (← digitValue? c)) rest

/-- A nonempty run of decimal digits. -/
def readNumeral? (cs : List Char) : Option Nat :=
  -- A sign alone, or nothing at all, is no number.
  if cs.isEmpty then none else readDigits? 0 cs

/-- Split off an optional sign, which is true for a minus. -/
def splitSign : List Char → Bool × List Char
  | '-' :: rest => (true, rest)
  | '+' :: rest => (false, rest)
  -- Without a sign the text counts as that of a positive number.
  | cs => (false, cs)

/-- An integer with an optional sign. -/
def readInteger? (cs : List Char) : Option Int := do
  let (negative, digits) := splitSign cs
  let value ← readNumeral? digits
  return if negative then -(value : Int) else value

end BsonTable.Text
