import BsonTable.Calendar.Instant

/-! Instants read from RFC 3339 text. -/

namespace BsonTable.Instant

/-- A fixed number of digits at the start, with the characters behind them. -/
def takeDigits? (count : Nat) (cs : List Char) : Option (Nat × List Char) :=
  -- Fewer characters than asked for are too few digits.
  if (cs.take count).length = count then
    (Text.readDigits? 0 (cs.take count)).map (·, cs.drop count)
  else none

/-- One given character at the start, with the characters behind it. -/
def takeChar? (c : Char) : List Char → Option (List Char)
  | first :: rest => if first = c then some rest else none
  | [] => none

/-- The nanoseconds of a fraction of a second, digits beyond the ninth being ignored. -/
def takeFraction? : List Char → Option (Nat × List Char)
  | '.' :: rest => do
    let digits := rest.takeWhile Char.isDigit
    guard (!digits.isEmpty)
    -- Filled up and cut to nine digits, any fraction counts nanoseconds.
    let nanos ← Text.readDigits? 0 ((digits ++ List.replicate 9 '0').take 9)
    return (nanos, rest.dropWhile Char.isDigit)
  | cs => some (0, cs)

/-- The minutes that a local time is ahead of UTC, at the end of the text. -/
def readOffset? : List Char → Option Int
  | ['Z'] | ['z'] => some 0
  | sign :: rest => do
    guard (sign = '+' ∨ sign = '-')
    let (hours, rest) ← takeDigits? 2 rest
    let rest ← takeChar? ':' rest
    let (minutes, rest) ← takeDigits? 2 rest
    -- The offset is the last part, so that nothing may follow it.
    guard (hours ≤ 23 ∧ minutes ≤ 59 ∧ rest.isEmpty)
    let offset : Int := hours * 60 + minutes
    return if sign = '-' then -offset else offset
  | [] => none

/-- A Gregorian date with hyphens. -/
def takeDate? (cs : List Char) : Option (CalendarDate × List Char) := do
  let (year, cs) ← takeDigits? 4 cs
  let cs ← takeChar? '-' cs
  let (month, cs) ← takeDigits? 2 cs
  let cs ← takeChar? '-' cs
  let (day, cs) ← takeDigits? 2 cs
  let date : CalendarDate := ⟨year, month, day⟩
  -- A day that the calendar lacks comes back as another date.
  guard (1 ≤ month ∧ month ≤ 12 ∧ CalendarDate.ofGregorianDay date.gregorianDay = date)
  return (date, cs)

/-- The characters behind the one that parts a date from a time, which may be any of ASCII. -/
def skipSeparator? : List Char → Option (List Char)
  | c :: rest => if c.toNat < 128 then some rest else none
  | [] => none

/-- The milliseconds of an RFC 3339 text; a leap second must close a month. -/
def ofRfc3339? (text : String) : Option Int := do
  let (date, cs) ← takeDate? text.toList
  -- The date and the time are read part by part, and any part may be missing.
  let (hour, cs) ← takeDigits? 2 (← skipSeparator? cs)
  let cs ← takeChar? ':' cs
  let (minute, cs) ← takeDigits? 2 cs
  let cs ← takeChar? ':' cs
  let (second, cs) ← takeDigits? 2 cs
  let (nanos, cs) ← takeFraction? cs
  let offset ← readOffset? cs
  guard (hour ≤ 23 ∧ minute ≤ 59 ∧ second ≤ 60)
  let leap := decide (second = 60)
  -- Behind the last second of a minute nothing is later, so its fraction is taken to be full.
  let nanos := if leap then 999999999 else nanos
  let minutes : Int := (date.gregorianDay - unixEpochDay) * 1440 + hour * 60 + minute - offset
  let seconds := minutes * 60 + (if leap then 59 else second : Nat)
  guard (!leap || (seconds + 1) % 86400 == 0 &&
    (Instant.date ((seconds + 1) * 1000)).day == 1)
  -- The quotient is rounded toward zero, so before 1970 it is the later millisecond.
  return Int.tdiv (seconds * 1000000000 + nanos) 1000000

end BsonTable.Instant
