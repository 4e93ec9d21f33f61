import BsonTable.Text.Hex

/-! The strings, keys and blanks of TOML text, each read off the front of the characters. -/

namespace BsonTable.Toml

/-- Spaces and tabs. -/
def isBlank (c : Char) : Bool :=
  c = ' ' || c = '\t'

/-- Characters that may stand in a comment or a string: no controls but the tab. -/
def isPrintable (c : Char) : Bool :=
  -- A tab is the only control character that may be written as it is.
  c = '\t' || (32 ≤ c.toNat && c.toNat ≠ 127)

/-- The characters behind leading blanks. -/
def skipBlanks (cs : List Char) : List Char :=
  cs.dropWhile isBlank

/-- The characters behind an expected one. -/
def skipChar? (c : Char) : List Char → Option (List Char)
  | first :: rest => if first = c then some rest else none
  | [] => none

/-- The characters behind a line break. -/
def skipNewline? : List Char → Option (List Char)
  -- A carriage return counts only with a line feed behind it.
  | '\n' :: rest => some rest
  | '\r' :: '\n' :: rest => some rest
  | _ => none

/-- The characters behind a comment, if there is one. -/
def skipComment : List Char → List Char
  | '#' :: rest => rest.dropWhile isPrintable
  | cs => cs

/-- The characters behind the blank or commented rest of a line. -/
def skipLineEnd? (cs : List Char) : Option (List Char) :=
  match skipComment (skipBlanks cs) with
  -- The end of the text ends a line as well.
  | [] => some []
  | rest => skipNewline? rest

/-- The character of a code point, unless it is a surrogate or out of range. -/
def codePoint? (digits : List Char) : Option Char := do
  let value ← Text.hexNumber? digits
  -- Surrogates have code points but are no characters.
  if h : value.isValidChar then return Char.ofNatAux value h else none

/-- The character that a one-letter escape stands for. -/
def escape? : Char → Option Char
  | 'b' => some '\x08'
  | 't' => some '\t'
  | 'n' => some '\n'
  | 'f' => some '\x0c'
  | 'r' => some '\r'
  | '"' => some '"'
  | '\\' => some '\\'
  | _ => none

/-- Put a character in front of the text that a reader took off the front. -/
def withChar (c : Option Char) (taken : Option (List Char × List Char)) :
    Option (List Char × List Char) := do
  -- The text behind the character is read first, but both have to succeed.
  let (text, rest) ← taken
  return ((← c) :: text, rest)

/-- The text up to a double quote, with escapes. -/
def basicString : List Char → Option (List Char × List Char)
  | '"' :: rest => some ([], rest)
  -- Escapes of code points have a fixed number of digits.
  | '\\' :: 'u' :: a :: b :: c :: d :: rest =>
    withChar (codePoint? [a, b, c, d]) (basicString rest)
  | '\\' :: 'U' :: a :: b :: c :: d :: e :: f :: g :: h :: rest =>
    withChar (codePoint? [a, b, c, d, e, f, g, h]) (basicString rest)
  | '\\' :: c :: rest => withChar (escape? c) (basicString rest)
  -- A backslash that starts no escape is not a character of its own.
  | c :: rest => if isPrintable c && c ≠ '\\' then withChar (some c) (basicString rest) else none
  | [] => none

/-- The text up to a single quote, as it stands. -/
def literalString : List Char → Option (List Char × List Char)
  | '\'' :: rest => some ([], rest)
  | c :: rest => if isPrintable c then withChar (some c) (literalString rest) else none
  | [] => none

/-- Whether only blanks stand before the end of the line. -/
def endsLine (cs : List Char) : Bool :=
  (skipNewline? (skipBlanks cs)).isSome

/-- The text up to three double quotes; a backslash at the end of a line joins it to the next. -/
def multilineBasic (joining : Bool) : List Char → Option (List Char × List Char)
  -- Up to two quotes may stand right before the three that end the text.
  | '"' :: '"' :: '"' :: '"' :: '"' :: rest => some (['"', '"'], rest)
  | '"' :: '"' :: '"' :: '"' :: rest => some (['"'], rest)
  | '"' :: '"' :: '"' :: rest => some ([], rest)
  -- Line breaks are the same in either spelling.
  | '\r' :: '\n' :: rest =>
    if joining then multilineBasic true rest else withChar (some '\n') (multilineBasic false rest)
  | '\n' :: rest =>
    if joining then multilineBasic true rest else withChar (some '\n') (multilineBasic false rest)
  | '\\' :: rest =>
    if endsLine rest then multilineBasic true rest
    else match rest with
      | 'u' :: a :: b :: c :: d :: rest =>
        withChar (codePoint? [a, b, c, d]) (multilineBasic false rest)
      | 'U' :: a :: b :: c :: d :: e :: f :: g :: h :: rest =>
        withChar (codePoint? [a, b, c, d, e, f, g, h]) (multilineBasic false rest)
      | c :: rest => withChar (escape? c) (multilineBasic false rest)
      | [] => none
  | c :: rest =>
    -- Behind a joined line, blanks at the start of the next one are dropped.
    if joining && isBlank c then multilineBasic true rest
    else if isPrintable c then withChar (some c) (multilineBasic false rest)
    else none
  | [] => none

/-- The text up to three single quotes, as it stands but for line breaks. -/
def multilineLiteral : List Char → Option (List Char × List Char)
  -- As in the other kind, with nothing to escape.
  | '\'' :: '\'' :: '\'' :: '\'' :: '\'' :: rest => some (['\'', '\''], rest)
  | '\'' :: '\'' :: '\'' :: '\'' :: rest => some (['\''], rest)
  | '\'' :: '\'' :: '\'' :: rest => some ([], rest)
  | '\r' :: '\n' :: rest => withChar (some '\n') (multilineLiteral rest)
  | '\n' :: rest => withChar (some '\n') (multilineLiteral rest)
  | c :: rest => if isPrintable c then withChar (some c) (multilineLiteral rest) else none
  | [] => none

/-- Drop the line break right behind the opening of a multiline string. -/
def skipFirstNewline (cs : List Char) : List Char :=
  (skipNewline? cs).getD cs

/-- A string of any of the four kinds. -/
def string? : List Char → Option (String × List Char)
  -- Three quotes open the kind with lines, before an empty text of the other kind is tried.
  | '"' :: '"' :: '"' :: rest =>
    (multilineBasic false (skipFirstNewline rest)).map fun (text, rest) => (.ofList text, rest)
  | '"' :: rest => (basicString rest).map fun (text, rest) => (.ofList text, rest)
  | '\'' :: '\'' :: '\'' :: rest =>
    (multilineLiteral (skipFirstNewline rest)).map fun (text, rest) => (.ofList text, rest)
  | '\'' :: rest => (literalString rest).map fun (text, rest) => (.ofList text, rest)
  | _ => none

/-- Characters of a key without quotes. -/
def isBareKeyChar (c : Char) : Bool :=
  c.isAlphanum || c = '-' || c = '_'

/-- One part of a key. -/
def simpleKey? : List Char → Option (String × List Char)
  | '"' :: rest => (basicString rest).map fun (text, rest) => (.ofList text, rest)
  | '\'' :: rest => (literalString rest).map fun (text, rest) => (.ofList text, rest)
  | cs =>
    -- A bare key has at least one character; an empty one has to be quoted.
    let name := cs.takeWhile isBareKeyChar
    if name.isEmpty then none else some (.ofList name, cs.dropWhile isBareKeyChar)

/-- Up to a number of parts of a key, parted by points that may have blanks around them. -/
def keyParts? : Nat → List Char → Option (List String × List Char)
  | 0, _ => none
  | parts + 1, cs => do
    let (part, rest) ← simpleKey? (skipBlanks cs)
    -- Blanks may stand on both sides of a point, and they belong to neither part.
    match skipBlanks rest with
    | '.' :: rest => do
      let (others, rest) ← keyParts? parts rest
      return (part :: others, rest)
    | rest => return ([part], rest)

/-- The greatest number of parts of a key, and of brackets open at once. -/
def depthLimit : Nat := 80

/-- A key of one or more parts. -/
def key? (cs : List Char) : Option (List String × List Char) :=
  keyParts? depthLimit cs

end BsonTable.Toml
