import BsonTable.Bson.ExtendedJson
import BsonTable.Number.Shortest

/-! The notation in which messages quote a value. -/

namespace BsonTable

/-- Messages write every double without exponent and without an empty fraction. -/
def quotedDoubleNotation : DoubleNotation where
  positional _ := true
  tie := .up
  integerTail := ""
  plus := ""
  nan := "NaN"
  infinity := "inf"

namespace Value

/-- Text between quotes, as it stands. -/
def inQuotes (text : String) : List Char :=
  -- Nothing is escaped, so a quote inside is not told from the closing one.
  '"' :: text.toList ++ ['"']

mutual

/-- A value as messages quote it. -/
def quote : Value → List Char
  | .double value => quotedDoubleNotation.write value
  | .string text => inQuotes text
  | .document [] => ['\x7b', '\x7d']
  | .document ((key, value) :: rest) =>
    -- The spaces inside the braces are only there when a field is.
    '\x7b' :: ' ' :: inQuotes key ++ ':' :: ' ' :: quote value ++ quoteFields rest ++
      [' ', '\x7d']
  | .array [] => ['[', ']']
  | .array (first :: rest) => '[' :: quote first ++ quoteElements rest ++ [']']
  | .binary subtype bytes =>
    "Binary(0x".toList ++ Text.hexNumeral subtype.toNat ++ ", ".toList ++
      Text.base64Encode bytes ++ [')']
  | .undefined => "undefined".toList
  | .objectId id => "ObjectId(".toList ++ inQuotes id.text ++ [')']
  | .bool value => (if value then "true" else "false").toList
  | .date millis => "DateTime(\"".toList ++ Instant.spacedText millis.toInt ++ ['"', ')']
  | .null => "null".toList
  | .regex pattern options => '/' :: pattern.toList ++ '/' :: options.toList
  | .dbPointer collection id =>
    "DbPointer(".toList ++ collection.toList ++ ", ".toList ++ id.text.toList ++ [')']
  | .javascript code => code.toList
  | .symbol text => "Symbol(".toList ++ inQuotes text ++ [')']
  -- Only the code is shown, and its scope is not.
  | .javascriptWithScope code _ => code.toList
  | .int value => Text.signedNumeral value.toInt
  | .timestamp time increment =>
    "Timestamp(".toList ++ Text.numeral time.toNat ++ ", ".toList ++
      Text.numeral increment.toNat ++ [')']
  | .long value => Text.signedNumeral value.toInt
  | .decimal value => value.text
  | .minKey => "MinKey".toList
  | .maxKey => "MaxKey".toList

/-- The elements after the first, each behind a comma. -/
def quoteElements : List Value → List Char
  | [] => []
  | element :: rest => ',' :: ' ' :: quote element ++ quoteElements rest

/-- The fields after the first, each behind a comma. -/
def quoteFields : List (String × Value) → List Char
  | [] => []
  | (key, value) :: rest =>
    ',' :: ' ' :: inQuotes key ++ ':' :: ' ' :: quote value ++ quoteFields rest

end

/-- A value as a message quotes it. -/
def quoted (value : Value) : String :=
  String.ofList (quote value)

end Value

end BsonTable
