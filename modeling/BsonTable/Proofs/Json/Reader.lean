import BsonTable.Json.Tree
import BsonTable.Number.Literal
import BsonTable.Text.Hex

/-!
A reader of JSON: what it accepts is JSON, with blanks between any two tokens, and a number with a
point or an exponent is the nearest double.
-/

namespace BsonTable.Json

section Tokens

/-- Whether a character may stand between tokens. -/
def isBlank (c : Char) : Bool :=
  c == ' ' || c == '\t' || c == '\n' || c == '\r'

/-- The text behind the blanks that it starts with. -/
def skipBlanks (cs : List Char) : List Char :=
  -- No other character is a blank to JSON.
  cs.dropWhile isBlank

/-- The character that a letter behind a backslash stands for. -/
def unescape? : Char → Option Char
  | '"' => some '"'
  | '\\' => some '\\'
  | '/' => some '/'
  | 'b' => some '\x08'
  | 'f' => some '\x0c'
  | 'n' => some '\n'
  | 'r' => some '\r'
  | 't' => some '\t'
  | _ => none

/-- The character of four hexadecimal digits, which must be no half of a pair. -/
def readCode? (digits : List Char) : Option Char := do
  -- A surrogate is half of a character, and pairs of them are not read.
  let code ← Text.hexNumber? digits
  if code.isValidChar then return Char.ofNat code else none

/-- The characters up to a closing quote, and the text behind it. -/
def readCharacters? : List Char → Option (List Char × List Char)
  -- A text without a closing quote is no string.
  | [] => none
  | '"' :: rest => some ([], rest)
  | '\\' :: 'u' :: a :: b :: c :: d :: rest => do
    let first ← readCode? [a, b, c, d]
    let (others, rest) ← readCharacters? rest
    return (first :: others, rest)
  | '\\' :: c :: rest => do
    let first ← unescape? c
    let (others, rest) ← readCharacters? rest
    return (first :: others, rest)
  | c :: rest => do
    -- Control characters must be escaped.
    guard (32 ≤ c.toNat)
    let (others, rest) ← readCharacters? rest
    return (c :: others, rest)

/-- The digits at the start, at least one, and the text behind them. -/
def readRun? (cs : List Char) : Option (List Char × List Char) :=
  match cs.takeWhile Char.isDigit with
  -- A point without digits behind it is no fraction.
  | [] => none
  | digits => some (digits, cs.dropWhile Char.isDigit)

/-- The digits behind a point, if there is one. -/
def readFraction? : List Char → Option (List Char × List Char)
  | '.' :: rest => readRun? rest
  | cs => some ([], cs)

/-- The integer behind an exponent mark, if there is one. -/
def readExponent? : List Char → Option (Option Int × List Char)
  | 'e' :: rest | 'E' :: rest => do
    -- The sign of an exponent may be a plus, unlike that of a number.
    let (negative, rest) := Text.splitSign rest
    let (digits, rest) ← readRun? rest
    let value ← Text.readNumeral? digits
    return (some (if negative then -(value : Int) else value), rest)
  | cs => some (none, cs)

/-- The value of a number from its parts, which is an integer if it has digits only. -/
def tokenValue (negative : Bool) (fraction : List Char) (exponent : Option Int)
    (coefficient : Nat) : Json :=
  match fraction, exponent with
  -- Without a point and an exponent the number is an integer, whatever its size.
  | [], none => .int (if negative then -(coefficient : Int) else coefficient)
  | _, _ => .double (.ofAnyDecimal negative coefficient (exponent.getD 0 - fraction.length))

/-- A sign, digits without leading zeros, and then perhaps a fraction and an exponent. -/
def readNumber? (cs : List Char) : Option (Json × List Char) := do
  let negative := cs.head? == some '-'
  let (whole, rest) ← readRun? (if negative then cs.drop 1 else cs)
  -- A zero in front stands alone.
  guard (whole.head? ≠ some '0' ∨ whole.length = 1)
  let (fraction, rest) ← readFraction? rest
  let (exponent, rest) ← readExponent? rest
  -- Whole digits and those of the fraction make one coefficient, which the exponent makes up for.
  let coefficient ← Text.readNumeral? (whole ++ fraction)
  return (tokenValue negative fraction exponent coefficient, rest)

end Tokens

section Values

-- Behind what was read the text is shorter, which is tested where it is read on.
mutual

/-- A value and the text behind it. -/
def readValue? (cs : List Char) : Option (Json × List Char) :=
  match skipBlanks cs with
  | 'n' :: 'u' :: 'l' :: 'l' :: rest => some (.null, rest)
  | 't' :: 'r' :: 'u' :: 'e' :: rest => some (.bool true, rest)
  | 'f' :: 'a' :: 'l' :: 's' :: 'e' :: rest => some (.bool false, rest)
  | '"' :: rest => (readCharacters? rest).map fun (text, rest) => (.string (String.ofList text), rest)
  | '[' :: rest =>
    -- Brackets with nothing but blanks between them have no elements, and a comma needs one behind
    -- it.
    if (skipBlanks rest).head? = some ']' then some (.array [], (skipBlanks rest).drop 1)
    else if rest.length < cs.length then
      (readElements? rest).map fun (elements, rest) => (.array elements, rest)
    else none
  | '\x7b' :: rest =>
    if (skipBlanks rest).head? = some '\x7d' then some (.object [], (skipBlanks rest).drop 1)
    else if rest.length < cs.length then
      (readMembers? rest).map fun (members, rest) => (.object members, rest)
    else none
  | number => readNumber? number
termination_by (cs.length, 0)

/-- At least one element, and the text behind the closing bracket. -/
def readElements? (cs : List Char) : Option (List Json × List Char) := do
  let (first, rest) ← readValue? cs
  match skipBlanks rest with
  | ']' :: rest => return ([first], rest)
  -- The test is there for termination, and never fails.
  | ',' :: rest =>
    if rest.length < cs.length then do
      let (others, rest) ← readElements? rest
      return (first :: others, rest)
    else none
  | _ => none
termination_by (cs.length, 1)

/-- At least one member, and the text behind the closing brace. -/
def readMembers? (cs : List Char) : Option (List (String × Json) × List Char) := do
  let (key, first, rest) ← readMember? cs
  match skipBlanks rest with
  | '\x7d' :: rest => return ([(key, first)], rest)
  | ',' :: rest =>
    if rest.length < cs.length then do
      let (others, rest) ← readMembers? rest
      return ((key, first) :: others, rest)
    else none
  | _ => none
termination_by (cs.length, 1)

/-- A key with its value, and the text behind them. -/
def readMember? (cs : List Char) : Option (String × Json × List Char) :=
  match skipBlanks cs with
  | '"' :: rest => do
    let (key, rest) ← readCharacters? rest
    match skipBlanks rest with
    | ':' :: rest =>
      if rest.length < cs.length then do
        let (value, rest) ← readValue? rest
        return (String.ofList key, value, rest)
      else none
    | _ => none
  | _ => none
termination_by (cs.length, 0)

end

/-- The tree of a text that is one value. -/
def read? (text : String) : Option Json := do
  let (tree, rest) ← readValue? text.toList
  -- Blanks may follow the value, and nothing else.
  guard (skipBlanks rest = [])
  return tree

end Values

end BsonTable.Json
