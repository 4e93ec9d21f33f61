import BsonTable.Bson.ExtendedJson
import BsonTable.Json.Printer
import BsonTable.Number.Shortest

/-! The canonical text of a value: natural for scalars, relaxed extended JSON for the rest. -/

namespace BsonTable

/-- Doubles keep a fractional digit from 1e-4 up to 1e16 and have an exponent outside. -/
def columnDoubleNotation : DoubleNotation where
  positional leading := decide (-4 ≤ leading ∧ leading < 16)
  tie := .up
  integerTail := ".0"
  plus := ""
  nan := "NaN"
  infinity := "inf"

/-- The text of a double in a column. -/
def Binary64.columnText (x : Binary64) : String :=
  String.ofList (columnDoubleNotation.write x)

/-- The canonical text of a date value: Julian before the cutover, Gregorian from it on. -/
def Instant.text [CalendarLibrary] (millis : Int) : List Char :=
  if millis < gregorianCutover then julianText millis
  -- Only a timestamp is shown by the library, which knows no instants beyond its range.
  else if CalendarLibrary.isTimestamp millis then CalendarLibrary.isoText millis
  else spacedText millis

namespace Value

/-- Relaxed extended JSON with a space after every separator. -/
def extendedJson [ExtendedJsonLibrary] [JsonLibrary] (value : Value) : String :=
  -- The text stays on one line; only separators have a space behind them.
  (ExtendedJsonLibrary.relaxed value).spacedText

/-- The text of a value; null, undefined and binary values have none. -/
def text? [Libraries] : Value → Option String
  -- What is absent has no text, and bytes have none that is readable.
  | null | undefined | binary _ _ => none
  | string text | symbol text | javascript text => some text
  | double value => some value.columnText
  -- Integers of both widths are shown by their number alone.
  | int value => some (String.ofList (Text.signedNumeral value.toInt))
  | long value => some (String.ofList (Text.signedNumeral value.toInt))
  | decimal value => some (String.ofList value.text)
  | bool value => some (if value then "true" else "false")
  | objectId id => some id.text
  | date millis => some (String.ofList (Instant.text millis.toInt))
  -- All that is left is nested or foreign.
  | value => some value.extendedJson

/-- The text of a value, with extended JSON in place of a missing one. -/
def displayText [Libraries] (value : Value) : String :=
  -- Something must be shown here, so what has no text is shown in full.
  value.text?.getD value.extendedJson

end Value

end BsonTable
