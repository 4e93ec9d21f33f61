import BsonTable.Library.Standard

/-!
What is relied on of a library of instants: timestamps are the instants of a range of years, and
each is dated and written in the Gregorian calendar, also before the year in which it came into
force.
-/

namespace BsonTable

open CalendarLibrary in
/-- A library keeps the Gregorian calendar, for the instants of its range. -/
class LawfulCalendarLibrary [CalendarLibrary] : Prop where
  /-- The range is that of the years from -262143 to 262142, not that of a word: some stored dates
  have no timestamp. -/
  isTimestamp_iff (millis : Int) :
    isTimestamp millis = true ↔ Instant.earliest ≤ millis ∧ millis ≤ Instant.latest
  -- Outside the range nothing is said, as there is no timestamp to ask about.
  date_eq {millis : Int} (held : isTimestamp millis = true) : date millis = Instant.date millis
  timeOfDay_eq {millis : Int} (held : isTimestamp millis = true) :
    timeOfDay millis = Instant.timeOfDay millis
  isoText_eq {millis : Int} (held : isTimestamp millis = true) :
    isoText millis = Instant.gregorianText millis

/-- The standard library of instants is lawful. -/
instance : LawfulCalendarLibrary where
  isTimestamp_iff _ := decide_eq_true_iff
  date_eq _ := rfl
  timeOfDay_eq _ := rfl
  isoText_eq _ := rfl

end BsonTable
