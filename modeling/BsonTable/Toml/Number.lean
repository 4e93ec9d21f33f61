import BsonTable.Calendar.Rfc3339
import BsonTable.Number.Literal
import BsonTable.Toml.Text

/-! The numbers and dates of TOML text. -/

namespace BsonTable.Toml

/-- Digits in which single underscores may part two digits. -/
def digits? (isDigit : Char → Bool) : List Char → Option (List Char × List Char)
  -- An underscore stands between two digits and nowhere else.
  | '_' :: _ => none
  | first :: rest =>
    if isDigit first then go [first] rest else none
  | [] => none
where
  go (taken : List Char) : List Char → Option (List Char × List Char)
    | '_' :: c :: rest => if isDigit c then go (c :: taken) rest else none
    | ['_'] => none
    | c :: rest => if isDigit c then go (c :: taken) rest else some (taken.reverse, c :: rest)
    | [] => some (taken.reverse, [])

/-- An optional sign. -/
def sign : List Char → List Char × List Char
  -- The sign is kept only where it matters to the value.
  | '+' :: rest => ([], rest)
  | '-' :: rest => (['-'], rest)
  | cs => ([], cs)

/-- Decimal digits that start with a zero only if they are one zero. -/
def decimalDigits? : List Char → Option (List Char × List Char)
  -- What follows the zero is left for others to refuse.
  | '0' :: rest => some (['0'], rest)
  | cs => digits? Char.isDigit cs

/-- The part of a number behind a point, with the point. -/
def fraction? : List Char → Option (List Char × List Char)
  | '.' :: rest => (digits? Char.isDigit rest).map fun (digits, rest) => ('.' :: digits, rest)
  | _ => none

/-- The exponent of a number, with its mark. -/
def exponent? : List Char → Option (List Char × List Char)
  | c :: rest => do
    -- Both letters mark an exponent.
    guard (c = 'e' ∨ c = 'E')
    let (sign, rest) := sign rest
    let (digits, rest) ← digits? Char.isDigit rest
    return ('e' :: sign ++ digits, rest)
  | [] => none

/-- A number with a fraction or an exponent, unless it grows beyond the doubles. -/
def decimalFloat? (cs : List Char) : Option (Binary64 × List Char) := do
  let (sign, cs) := sign cs
  let (whole, cs) ← decimalDigits? cs
  let (tail, cs) ← match fraction? cs with
    | some (fraction, cs) =>
      match exponent? cs with
      | some (exponent, cs) => some (fraction ++ exponent, cs)
      | none => some (fraction, cs)
    | none => exponent? cs
  -- The digits are converted as one literal, so that there is one rounding only.
  let value ← Binary64.ofLiteral? (String.ofList (sign ++ whole ++ tail))
  -- Only a positive literal is refused for its size, and a negative one is an infinity then.
  guard (value.datum != .infinite false)
  return (value, cs)

/-- An infinity or a NaN. -/
def namedFloat? (cs : List Char) : Option (Binary64 × List Char) :=
  let (sign, cs) := sign cs
  match cs with
  | 'i' :: 'n' :: 'f' :: rest => some (.infinity !sign.isEmpty, rest)
  | 'n' :: 'a' :: 'n' :: rest => some (.nan, rest)
  | _ => none

/-- Positional value of digits in a base. -/
def numberInBase (base : Nat) (digits : List Char) : Nat :=
  digits.foldl (fun value c => base * value + (Text.hexValue? c).getD 0) 0

/-- Digits of a base behind its mark, as a 64-bit integer. -/
def basedInteger? (base : Nat) (isDigit : Char → Bool) (cs : List Char) :
    Option (Int × List Char) := do
  let (digits, rest) ← digits? isDigit cs
  -- Digits are collected without a bound, which is why the bound is tested on the value.
  let value := numberInBase base digits
  guard (value < Nat.pow 2 63)
  return (value, rest)

/-- A 64-bit integer, decimal unless a mark says otherwise. -/
def integer? : List Char → Option (Int × List Char)
  -- The mark of a base is in lower case, and has no sign in front.
  | '0' :: 'x' :: rest => basedInteger? 16 (fun c => (Text.hexValue? c).isSome) rest
  | '0' :: 'o' :: rest => basedInteger? 8 (fun c => c.isDigit && c.toNat < '8'.toNat) rest
  | '0' :: 'b' :: rest => basedInteger? 2 (fun c => c = '0' || c = '1') rest
  | cs => do
    let (sign, cs) := sign cs
    let (digits, rest) ← decimalDigits? cs
    let magnitude : Int := numberInBase 10 digits
    let value := if sign.isEmpty then magnitude else -magnitude
    guard (-(Nat.pow 2 63 : Int) ≤ value ∧ value < Nat.pow 2 63)
    return (value, rest)

/-- The characters behind a time of day to the second or finer. -/
def skipTime? (cs : List Char) : Option (List Char) := do
  let (hour, cs) ← Instant.takeDigits? 2 cs
  let cs ← skipChar? ':' cs
  let (minute, cs) ← Instant.takeDigits? 2 cs
  let cs ← skipChar? ':' cs
  let (second, cs) ← Instant.takeDigits? 2 cs
  -- A leap second is allowed on any minute.
  guard (hour ≤ 23 ∧ minute ≤ 59 ∧ second ≤ 60)
  return (← Instant.takeFraction? cs).2

/-- The characters behind an offset from UTC, if there is one. -/
def skipOffset? : List Char → Option (List Char)
  | 'Z' :: rest | 'z' :: rest => some rest
  | c :: rest =>
    if c = '+' ∨ c = '-' then do
      let (hour, rest) ← Instant.takeDigits? 2 rest
      let rest ← skipChar? ':' rest
      let (minute, rest) ← Instant.takeDigits? 2 rest
      -- The bounds are those of a clock, whatever offsets are in use.
      guard (hour ≤ 23 ∧ minute ≤ 59)
      return rest
    else some (c :: rest)
  | [] => some []

/-- The characters behind a date, a time, or a date with a time. -/
def skipDateTime? (cs : List Char) : Option (List Char) :=
  -- Only the extent of a date matters, as options have no dates.
  match Instant.takeDate? cs with
  | none => skipTime? cs
  | some (_, rest) =>
    match rest with
    | c :: behind =>
      if c = 'T' ∨ c = 't' ∨ c = ' ' then
        match skipTime? behind with
        | some rest => skipOffset? rest
        -- A blank may also end the date.
        | none => if c = ' ' then some rest else none
      else some rest
    | [] => some []

end BsonTable.Toml
