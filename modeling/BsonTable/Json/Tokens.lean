import BsonTable.Number.Shortest
import BsonTable.Text.Hex

/-! The tokens of JSON that a serializer chooses: how it writes doubles and escapes characters. -/

namespace BsonTable.Json

/-- JSON writes doubles plainly from 1e-5 up to 1e16 and signs every exponent. -/
def doubleNotation : DoubleNotation where
  -- Where the leading digit stands decides how the number is written.
  positional leading := decide (-5 ≤ leading ∧ leading < 16)
  tie := .toEven
  integerTail := ".0"
  plus := "+"
  nan := "null"
  infinity := "null"

/-- A number token; JSON has none for infinities and NaN. -/
def doubleText (x : Binary64) : List Char :=
  match x.datum with
  | .finite .. => doubleNotation.write x
  -- Infinities and NaN have no token, so they are lost here.
  | _ => "null".toList

/-- A character inside a string: quotes, backslashes and controls are escaped. -/
def escapeChar (c : Char) : List Char :=
  -- The two characters that end or escape something come first, then controls with a letter.
  if c = '"' then ['\\', '"']
  else if c = '\\' then ['\\', '\\']
  else if c = '\x08' then ['\\', 'b']
  else if c = '\x0c' then ['\\', 'f']
  else if c = '\n' then ['\\', 'n']
  else if c = '\r' then ['\\', 'r']
  else if c = '\t' then ['\\', 't']
  -- Other controls are written by their code, of which the first two digits are zero.
  else if c.toNat < 32 then '\\' :: 'u' :: '0' :: '0' :: Text.hexByte (UInt8.ofNat c.toNat)
  else [c]

end BsonTable.Json
