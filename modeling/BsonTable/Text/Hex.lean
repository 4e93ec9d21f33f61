/-! Hexadecimal text of byte strings, two digits a byte. -/

namespace BsonTable.Text

/-- The lower-case digit of a value below sixteen. -/
def hexChar (value : Nat) : Char :=
  -- The letters follow the ten digits.
  if value < 10 then Char.ofNat ('0'.toNat + value) else Char.ofNat ('a'.toNat + (value - 10))

/-- The value of a hexadecimal digit in either case. -/
def hexValue? (c : Char) : Option Nat :=
  -- Reading takes both cases, although only lower case is written.
  if c.isDigit then some (c.toNat - '0'.toNat)
  else if 'a' ≤ c ∧ c ≤ 'f' then some (c.toNat - 'a'.toNat + 10)
  else if 'A' ≤ c ∧ c ≤ 'F' then some (c.toNat - 'A'.toNat + 10)
  else none

/-- The two digits of a byte, high half first. -/
def hexByte (byte : UInt8) : List Char :=
  [hexChar (byte.toNat / 16), hexChar (byte.toNat % 16)]

/-- Hexadecimal text in lower case. -/
def hexEncode (bytes : List UInt8) : List Char :=
  bytes.flatMap hexByte

/-- Read pairs of digits, refusing an odd digit at the end. -/
def hexDecode? : List Char → Option (List UInt8)
  | [] => some []
  | high :: low :: rest => do
    let byte := 16 * (← hexValue? high) + (← hexValue? low)
    return UInt8.ofNat byte :: (← hexDecode? rest)
  -- One digit is only half a byte.
  | [_] => none

/-- Positional value of a run of hexadecimal digits. -/
def hexNumber? (cs : List Char) : Option Nat :=
  -- Any number of digits will do, but not none.
  if cs.isEmpty then none
  else cs.foldlM (fun value c => (hexValue? c).map (16 * value + ·)) 0

/-- A number in lower-case hexadecimal, without leading zeros. -/
def hexNumeral (value : Nat) : List Char :=
  -- The last digit comes off first, so the others are written before it.
  if value < 16 then [hexChar value] else hexNumeral (value / 16) ++ [hexChar (value % 16)]

end BsonTable.Text
