import BsonTable.Bson.Value
import BsonTable.Calendar.Instant
import BsonTable.Json.Tree
import BsonTable.Number.Fixed96

/-!
What reading a result leaves to libraries: decimals of limited size, a calendar, extended JSON and
the tokens of JSON. A result set works over any implementation of these classes.
-/

namespace BsonTable

/-- A library of fixed-point decimals, by the ways in which it makes them, which need not agree. -/
class DecimalLibrary where
  /-- The number that text writes, which is meant for plain digits. -/
  ofText? : List Char → Option Fixed96
  /-- The number that text with an exponent writes. -/
  ofScientificText? : List Char → Option Fixed96
  /-- The number of a double. -/
  ofBinary64? : Binary64 → Option Fixed96

/-- A library of instants in a calendar, which has timestamps for the instants of some range. -/
class CalendarLibrary where
  /-- Whether there is a timestamp for an instant; the other questions are about timestamps only. -/
  isTimestamp : Int → Bool
  /-- The date of a timestamp. -/
  date : Int → CalendarDate
  /-- The time of day of a timestamp. -/
  timeOfDay : Int → TimeOfDay
  /-- The ISO 8601 text of a timestamp, with three places of a second. -/
  isoText : Int → List Char
  /-- The text of a timestamp where it is serialized. -/
  serialText : Int → List Char

/-- A library that turns values into extended JSON and back. -/
class ExtendedJsonLibrary where
  /-- The relaxed form of a value, which prefers readable text. -/
  relaxed : Value → Json
  /-- The form in which a stored value is serialized; one text may have parts of both forms. -/
  stored : Value → Json
  /-- The value that a document of extended form describes. -/
  described? : Document → Option Value

/-- A library that writes JSON, by the tokens that it chooses itself. -/
class JsonLibrary where
  /-- The token of a double, which is no number where JSON has none. -/
  doubleText : Binary64 → List Char
  /-- A character inside a string. -/
  escapeChar : Char → List Char

/-- All that reading a result relies on. -/
class Libraries extends DecimalLibrary, CalendarLibrary, ExtendedJsonLibrary, JsonLibrary

end BsonTable
