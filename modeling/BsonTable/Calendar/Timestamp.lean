import BsonTable.Library.Basic

/-! Timestamps: the instants that a calendar library can hold. -/

namespace BsonTable

/-- An instant that was found to be in the range of timestamps. -/
structure Timestamp where
  -- That the instant is in the range is known from how a timestamp is made.
  millis : Int
deriving Repr, DecidableEq

namespace Timestamp

/-- The timestamp of an instant, if there is one. -/
def ofMillis? [CalendarLibrary] (millis : Int) : Option Timestamp :=
  if CalendarLibrary.isTimestamp millis then some ⟨millis⟩ else none

/-- The date. -/
def date [CalendarLibrary] (timestamp : Timestamp) : CalendarDate :=
  CalendarLibrary.date timestamp.millis

/-- The time of day. -/
def timeOfDay [CalendarLibrary] (timestamp : Timestamp) : TimeOfDay :=
  CalendarLibrary.timeOfDay timestamp.millis

end Timestamp

end BsonTable
