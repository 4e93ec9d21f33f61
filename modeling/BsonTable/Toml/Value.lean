import BsonTable.Fields
import BsonTable.Toml.Number

/-! TOML values: scalars, arrays and inline tables. -/

namespace BsonTable

/-- How a table came about, which decides who may add to it. -/
inductive TableOrigin where
  /-- By a header of its own. -/
  | header
  /-- On the way to the table of a longer header. -/
  | implied
  /-- By a key with several parts. -/
  | dotted
  /-- By a value in braces. -/
  | inline
deriving Repr, DecidableEq

/-- A TOML value; dates are checked and then kept without their fields. -/
inductive Toml where
  | string (text : String)
  | integer (value : Int)
  | float (value : Binary64)
  | boolean (value : Bool)
  | dateTime
  | array (elements : List Toml)
  | table (origin : TableOrigin) (fields : List (String × Toml))
  /-- The tables of a repeated header. -/
  | tables (elements : List (List (String × Toml)))

namespace Toml

/-- A table's fields. -/
abbrev Table := List (String × Toml)

/-- Add a value under a key of several parts, whose first ones name tables of such keys. -/
def insertDotted? (value : Toml) : List String → Table → Option Table
  | [], _ => none
  | [key], fields =>
    -- No key is set twice.
    if (Fields.get? key fields).isSome then none else some (Fields.insert key value fields)
  | key :: next :: path, fields =>
    match Fields.get? key fields with
    | none => do
      let inner ← insertDotted? value (next :: path) []
      return Fields.insert key (table .dotted inner) fields
    | some (table origin inner) => do
      -- A table on the way may be implied, but the one that takes the value may not.
      guard (origin = .dotted ∨ (origin = .implied ∧ path ≠ []))
      let inner ← insertDotted? value (next :: path) inner
      return Fields.insert key (table origin inner) fields
    -- Of repeated tables only the last one is open, and only for a key that leads further.
    | some (tables elements) => do
      guard (path ≠ [])
      let last ← elements.getLast?
      let inner ← insertDotted? value (next :: path) last
      return Fields.insert key (tables (elements.dropLast ++ [inner])) fields
    | some _ => none

/-- The characters behind blanks, comments and line breaks. -/
def skipLines? : Nat → List Char → Option (List Char)
  | 0, _ => none
  | steps + 1, cs =>
    -- Line breaks and comments may stand between the elements of an array.
    match skipBlanks cs with
    | '#' :: rest => do skipLines? steps (← skipNewline? (skipComment ('#' :: rest)))
    | '\n' :: rest => skipLines? steps rest
    | '\r' :: rest => do skipLines? steps (← skipNewline? ('\r' :: rest))
    | rest => some rest

/-- The characters behind all that may part the elements of an array. -/
def skipSpace? (cs : List Char) : Option (List Char) :=
  skipLines? (cs.length + 1) cs

/-- A date or a number; what starts like a date is one. -/
def number? (cs : List Char) : Option (Toml × List Char) :=
  -- A date is tried first, since it starts with the digits of a number.
  match skipDateTime? cs with
  | some rest => some (dateTime, rest)
  | none =>
    match decimalFloat? cs with
    | some (value, rest) => some (float value, rest)
    | none =>
      match namedFloat? cs with
      | some (value, rest) => some (float value, rest)
      | none => (integer? cs).map fun (value, rest) => (integer value, rest)

/-- A value without brackets. -/
def scalar? : List Char → Option (Toml × List Char)
  | 't' :: 'r' :: 'u' :: 'e' :: rest => some (boolean true, rest)
  | 'f' :: 'a' :: 'l' :: 's' :: 'e' :: rest => some (boolean false, rest)
  | '"' :: rest => (string? ('"' :: rest)).map fun (text, rest) => (string text, rest)
  | '\'' :: rest => (string? ('\'' :: rest)).map fun (text, rest) => (string text, rest)
  | cs => number? cs

mutual

/-- A value; the fuel bounds the values to read, and the depth the brackets open at once. -/
def value? : Nat → Nat → List Char → Option (Toml × List Char)
  | 0, _, _ => none
  | fuel + 1, depth, '[' :: rest => do
    -- The brackets that are open are counted down, not up, to their limit.
    guard (1 < depth)
    let (elements, rest) ← elements? fuel (depth - 1) rest
    return (array elements, rest)
  | fuel + 1, depth, '\x7b' :: rest => do
    guard (1 < depth)
    let (fields, rest) ← match skipBlanks rest with
      -- Braces may be empty, but a comma needs a field behind it.
      | '\x7d' :: rest => some ([], rest)
      | rest => pairs? fuel (depth - 1) [] rest
    return (table .inline fields, rest)
  | _ + 1, _, cs => scalar? cs

/-- The elements of an array up to its end; a comma may follow the last one. -/
def elements? : Nat → Nat → List Char → Option (List Toml × List Char)
  | 0, _, _ => none
  | fuel + 1, depth, cs => do
    match ← skipSpace? cs with
    | ']' :: rest => return ([], rest)
    | cs =>
      let (element, rest) ← value? fuel depth cs
      -- A comma behind the last element is fine.
      match ← skipSpace? rest with
      | ',' :: rest =>
        let (others, rest) ← elements? fuel depth rest
        return (element :: others, rest)
      | ']' :: rest => return ([element], rest)
      | _ => none

/-- The fields of an inline table up to its end, added to those before them. -/
def pairs? : Nat → Nat → Table → List Char → Option (Table × List Char)
  | 0, _, _, _ => none
  | fuel + 1, depth, fields, cs => do
    let (path, rest) ← key? cs
    let rest ← skipChar? '=' rest
    let (value, rest) ← value? fuel depth (skipBlanks rest)
    -- Keys of several parts open tables inside the braces.
    let fields ← insertDotted? value path fields
    match skipBlanks rest with
    | ',' :: rest => pairs? fuel depth fields rest
    | '\x7d' :: rest => return (fields, rest)
    | _ => none

end

/-- A value at the front of the characters. -/
def readValue? (cs : List Char) : Option (Toml × List Char) :=
  -- Each value takes a character at least, and so does what parts it from the next one.
  value? (2 * cs.length + 1) depthLimit cs

end Toml

end BsonTable
