/-! Calendar dates as Julian day numbers, in the Julian and the Gregorian calendar. -/

namespace BsonTable

/-- A date with an astronomical year, in which 1 BC is year zero. -/
structure CalendarDate where
  year : Int
  month : Int
  day : Int
deriving Repr, DecidableEq

namespace CalendarDate

/-- The date of a day counted from the first of March of year -4800, in years of fixed rule. -/
def ofMarchYear (year dayOfYear : Int) : CalendarDate :=
  -- From March on, months of 31 and 30 days repeat every five months, which are 153 days.
  let month := (5 * dayOfYear + 2) / 153
  { year := year - 4800 + month / 10
    month := month + 3 - 12 * (month / 10)
    day := dayOfYear - (153 * month + 2) / 5 + 1 }

/-- The date of a Julian day number in the Julian calendar, continued in both directions. -/
def ofJulianDay (dayNumber : Int) : CalendarDate :=
  -- Day zero is the first of March of that year, and leap days come at the end of years.
  let days := dayNumber + 32082
  let year := (4 * days + 3) / 1461
  ofMarchYear year (days - 1461 * year / 4)

/-- The date of a Julian day number in the Gregorian calendar, continued in both directions. -/
def ofGregorianDay (dayNumber : Int) : CalendarDate :=
  let days := dayNumber + 32044
  -- A century that is no fourth one lacks the leap day at its end.
  let century := (4 * days + 3) / 146097
  let days := days - 146097 * century / 4
  let year := (4 * days + 3) / 1461
  ofMarchYear (100 * century + year) (days - 1461 * year / 4)

/-- The days from the first of March to the first of a month that is not before March. -/
def daysBeforeMonth (month : Int) : Int :=
  -- The five-month cycle starts with March, so the division has the lengths of months in order.
  (153 * (month - 3) + 2) / 5

/-- The Julian day number of a Gregorian date. -/
def gregorianDay (date : CalendarDate) : Int :=
  -- January and February close the year that began in the March before.
  let early := decide (date.month < 3)
  let year := date.year + 4800 - (if early then 1 else 0)
  let month := date.month + (if early then 12 else 0)
  365 * year + year / 4 - year / 100 + year / 400 + daysBeforeMonth month + date.day - 1 - 32044

end CalendarDate

end BsonTable
