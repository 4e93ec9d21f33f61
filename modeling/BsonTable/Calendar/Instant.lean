import BsonTable.Calendar.Date
import BsonTable.Text.Numeral

/-! Instants as milliseconds since 1970 in UTC, and the texts in which they are written. -/

namespace BsonTable

/-- Milliseconds of a day. -/
def millisPerDay : Int := 86400000

/-- The Julian day number of the first of January 1970. -/
def unixEpochDay : Int := 2440588

/-- A time of day to the millisecond. -/
structure TimeOfDay where
  hour : Nat
  minute : Nat
  second : Nat
  milli : Nat
deriving Repr, DecidableEq

namespace Instant

/-- The Julian day number of the day that an instant belongs to. -/
def dayNumber (millis : Int) : Int :=
  -- Rounding down puts instants before 1970 on the day that they belong to.
  millis / millisPerDay + unixEpochDay

/-- The time of day of an instant. -/
def timeOfDay (millis : Int) : TimeOfDay :=
  -- What is left of the day is never negative, so all parts are natural numbers.
  let ofDay := (millis % millisPerDay).toNat
  { hour := ofDay / 3600000
    minute := ofDay / 60000 % 60
    second := ofDay / 1000 % 60
    milli := ofDay % 1000 }

/-- The Gregorian date of an instant. -/
def date (millis : Int) : CalendarDate :=
  .ofGregorianDay (dayNumber millis)

/-- The first instant of the Gregorian calendar, 15 October 1582. -/
def gregorianCutover : Int := -12219292800000

/-- The first instant that a timestamp can hold, which opens year -262143. -/
def earliest : Int := -8334601228800000

/-- The last instant that a timestamp can hold, which closes year 262142. -/
def latest : Int := 8210266876799999

/-- The two-digit fields of a date and a time down to the second. -/
def fieldsText (date : CalendarDate) (time : TimeOfDay) : List Char :=
  -- Only the year can be negative or long, so these fields all have two digits.
  '-' :: Text.paddedNumeral 2 date.month.toNat ++ '-' :: Text.paddedNumeral 2 date.day.toNat ++
    'T' :: Text.paddedNumeral 2 time.hour ++ ':' :: Text.paddedNumeral 2 time.minute ++
    ':' :: Text.paddedNumeral 2 time.second

/-- A year of at least four digits, with a sign outside 0 to 9999. -/
def yearText (year : Int) : List Char :=
  -- The digits are filled to four without the sign.
  let digits := Text.paddedNumeral 4 year.natAbs
  if year < 0 then '-' :: digits
  else if 9999 < year then '+' :: digits
  else digits

/-- A year filled with zeros to four characters, a minus sign being one of them. -/
def julianYearText (year : Int) : List Char :=
  -- The sign takes one of the four characters, which leaves three for the digits.
  if year < 0 then '-' :: Text.paddedNumeral 3 year.natAbs
  else Text.paddedNumeral 4 year.natAbs

/-- Three places of a second and the mark of UTC. -/
def millisText (time : TimeOfDay) : List Char :=
  '.' :: Text.paddedNumeral 3 time.milli ++ ['Z']

/-- ISO 8601 text in the Gregorian calendar. -/
def gregorianText (millis : Int) : List Char :=
  let time := timeOfDay millis
  let day := date millis
  yearText day.year ++ fieldsText day time ++ millisText time

/-- ISO 8601 text in the Julian calendar. -/
def julianText (millis : Int) : List Char :=
  let time := timeOfDay millis
  -- The Julian calendar is continued over all days, whether or not it was in force.
  let day := CalendarDate.ofJulianDay (dayNumber millis)
  julianYearText day.year ++ fieldsText day time ++ millisText time

/-- The places of a second, as few as hold its milliseconds. -/
def fractionDigits (time : TimeOfDay) : List Char :=
  -- Trailing zeros are dropped, so that a whole second has no places at all.
  ((Text.paddedNumeral 3 time.milli).reverse.dropWhile (· == '0')).reverse

/-- Text with the date, the time and the offset from UTC apart, or bare milliseconds far away. -/
def spacedText (millis : Int) : List Char :=
  let time := timeOfDay millis
  let day := date millis
  -- Far from today the year is not written, as it would have too many digits.
  if day.year.natAbs ≤ 999999 then
    let fraction := fractionDigits time
    yearText day.year ++ '-' :: Text.paddedNumeral 2 day.month.toNat ++
      '-' :: Text.paddedNumeral 2 day.day.toNat ++ ' ' :: Text.numeral time.hour ++
      ':' :: Text.paddedNumeral 2 time.minute ++ ':' :: Text.paddedNumeral 2 time.second ++
      '.' :: (if fraction.isEmpty then ['0'] else fraction) ++ " +00:00:00".toList
  else Text.signedNumeral millis

/-- RFC 3339 text without a fraction of zero. -/
def rfc3339Text (fraction : List Char) (millis : Int) : List Char :=
  let day := date millis
  -- The point goes with the fraction.
  let point := if fraction.isEmpty then [] else '.' :: fraction
  yearText day.year ++ fieldsText day (timeOfDay millis) ++ point ++ ['Z']

/-- RFC 3339 text with no places of a second, or three. -/
def threePlaceText (millis : Int) : List Char :=
  let time := timeOfDay millis
  -- A whole second is written without places, any other with all three.
  rfc3339Text (if time.milli = 0 then [] else Text.paddedNumeral 3 time.milli) millis

/-- RFC 3339 text with as few places of a second as possible. -/
def shortestFractionText (millis : Int) : List Char :=
  rfc3339Text (fractionDigits (timeOfDay millis)) millis

end Instant

end BsonTable
