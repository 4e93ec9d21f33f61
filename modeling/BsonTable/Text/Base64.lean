/-! Base64 text with the standard alphabet, padded to whole groups of four characters. -/

namespace BsonTable.Text

/-- The sixty-four characters, in the order of their values. -/
def base64Alphabet : List Char :=
  "ABCDEFGHIJKLMNOPQRSTUVWXYZabcdefghijklmnopqrstuvwxyz0123456789+/".toList

/-- The character of a six-bit group. -/
def base64Char (group : Nat) : Char :=
  -- The default is never used for a group, as there are sixty-four characters.
  base64Alphabet.getD group '='

/-- The six-bit group of a character. -/
def base64Value? (c : Char) : Option Nat :=
  base64Alphabet.idxOf? c

/-- The text of bytes, whose last group is filled with equals signs. -/
def base64Encode : List UInt8 → List Char
  | [] => []
  | [a] =>
    -- Eight bits are twelve with four zeros behind them, and those are two groups.
    let bits := a.toNat * 16
    [base64Char (bits / 64), base64Char (bits % 64), '=', '=']
  | [a, b] =>
    -- Sixteen bits are filled up to three groups of six.
    let bits := (a.toNat * 256 + b.toNat) * 4
    [base64Char (bits / 4096), base64Char (bits / 64 % 64), base64Char (bits % 64), '=']
  | a :: b :: c :: rest =>
    let bits := (a.toNat * 256 + b.toNat) * 256 + c.toNat
    base64Char (bits / 262144) :: base64Char (bits / 4096 % 64) ::
      base64Char (bits / 64 % 64) :: base64Char (bits % 64) :: base64Encode rest

/-- The bytes of padded text; the bits left over after the last byte must be zero. -/
def base64Decode? : List Char → Option (List UInt8)
  | [] => some []
  | [a, b, '=', '='] => do
    let bits := (← base64Value? a) * 64 + (← base64Value? b)
    -- Text whose surplus bits are not zero is not what any bytes are written as.
    guard (bits % 16 = 0)
    return [UInt8.ofNat (bits / 16)]
  | [a, b, c, '='] => do
    let bits := ((← base64Value? a) * 64 + (← base64Value? b)) * 64 + (← base64Value? c)
    guard (bits % 4 = 0)
    return [UInt8.ofNat (bits / 1024), UInt8.ofNat (bits / 4)]
  | a :: b :: c :: d :: rest => do
    -- A whole group of four has no bits left over.
    let high := (← base64Value? a) * 64 + (← base64Value? b)
    let bits := (high * 64 + (← base64Value? c)) * 64 + (← base64Value? d)
    return UInt8.ofNat (bits / 65536) :: UInt8.ofNat (bits / 256) :: UInt8.ofNat bits ::
      (← base64Decode? rest)
  -- Text that is not in groups of four, or is filled in another place, writes no bytes.
  | _ => none

end BsonTable.Text
