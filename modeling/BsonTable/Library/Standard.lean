import BsonTable.Bson.ExtendedJson
import BsonTable.Bson.OfJson
import BsonTable.Json.Tokens
import BsonTable.Number.FixedText

/-!
The libraries that results are read with: decimals of ninety-six bits, the Gregorian calendar of a
bounded range of years, and JSON with the shortest digits of a double.
-/

namespace BsonTable

/-- What each class is implemented by. -/
instance Libraries.standard : Libraries where
  -- Text is read from left to right, up to the first digit that does not fit.
  ofText? := Fixed96.ofText?
  ofScientificText? := Fixed96.ofScientificText?
  ofBinary64? := Fixed96.ofBinary64?
  -- The range is that of the years that dates are kept with.
  isTimestamp millis := Instant.earliest ≤ millis ∧ millis ≤ Instant.latest
  date := Instant.date
  timeOfDay := Instant.timeOfDay
  isoText := Instant.gregorianText
  serialText := Instant.threePlaceText
  -- Forms that are meant for readers differ from stored ones in few places.
  relaxed := ExtendedJson.relaxed
  stored := ExtendedJson.stored
  described? := ExtendedJson.ofFields?
  doubleText := Json.doubleText
  escapeChar := Json.escapeChar

end BsonTable
