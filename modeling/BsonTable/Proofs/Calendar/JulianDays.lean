import BsonTable.Proofs.Calendar.IsoText
import BsonTable.Proofs.Number.CheckedWord

/-!
The Julian dates of instants before the cutover. A date is that of its day number, the day after has
the next number, and date and time of day give the instant back; all of this is computed in words of
64 bits, none of which overflows for any instant.
-/

namespace BsonTable

namespace Calendar

/-- The date after a date: in its month, or the first of the next month or of the next year. -/
def dayAfter (calendar : Calendar) (date : CalendarDate) : CalendarDate :=
  if date.day < calendar.monthLength date.year date.month then
    ⟨date.year, date.month, date.day + 1⟩
  else if date.month < 12 then ⟨date.year, date.month + 1, 1⟩
  else ⟨date.year + 1, 1, 1⟩

variable {calendar : Calendar} {date : CalendarDate}

/-- The day after a date is a date, and has the next day number. -/
theorem HasDate.dayAfter (held : calendar.HasDate date) :
    calendar.HasDate (calendar.dayAfter date) ∧
      calendar.dayNumber (calendar.dayAfter date) = calendar.dayNumber date + 1 := by
  have months := held.month
  have days := held.day
  have next := calendar.daysBefore_succ date.year held.month.1
  unfold Calendar.dayAfter
  split_ifs with inMonth inYear
  · -- The month goes on.
    refine ⟨⟨months, ?_⟩, ?_⟩ <;> dsimp only [dayNumber] <;> omega
  · -- The next month starts where this one ends.
    have length := calendar.monthLength_ge date.year (date.month + 1)
    refine ⟨⟨?_, ?_⟩, ?_⟩ <;> dsimp only [dayNumber] <;> omega
  · -- This was the last of December, so the next year starts where this one ends.
    have past : date.month + 1 = 13 := by omega
    have length := calendar.monthLength_ge (date.year + 1) 1
    have start := calendar.daysBefore_eq (date.year + 1) (show (1 : Int) ≤ 1 by decide) (by decide)
    have year := calendar.yearStart_succ date.year
    rw [past, calendar.daysBefore_thirteen] at next
    rw [if_pos (by decide)] at start
    refine ⟨⟨?_, ?_⟩, ?_⟩ <;> dsimp only [dayNumber] <;> omega

/-- The next day number is that of the day after. -/
theorem date_succ (calendar : Calendar) (day : Int) :
    calendar.date (day + 1) = calendar.dayAfter (calendar.date day) := by
  -- The date of the number has a day after it, whose number is one more.
  obtain ⟨held, number⟩ := calendar.date_spec day
  obtain ⟨after, next⟩ := held.dayAfter
  rw [← after.date_dayNumber, next, number]

end Calendar

section Words

variable {α : Type} [Add α] [Sub α] [Mul α] [Div α] [∀ n : Nat, OfNat α n]

/-- Year, month and day from a year and a day that are counted from March, in any arithmetic. -/
def CalendarDate.marchNumbers (year dayOfYear : α) : List α :=
  let month := (5 * dayOfYear + 2) / 153
  [year - 4800 + month / 10, month + 3 - 12 * (month / 10), dayOfYear - (153 * month + 2) / 5 + 1]

/-- Year, month and day of a Julian day number, in any arithmetic. -/
def CalendarDate.julianNumbers (day : α) : List α :=
  let days := day + 32082
  let year := (4 * days + 3) / 1461
  marchNumbers year (days - 1461 * year / 4)

variable [Mod α]

/-- Hour, minute, second and millisecond of the milliseconds of a day, in any arithmetic. -/
def TimeOfDay.numbers (ofDay : α) : List α :=
  [ofDay / 3600000, ofDay / 60000 % 60, ofDay / 1000 % 60, ofDay % 1000]

/-- The numbers in the Julian text of an instant, in any arithmetic. -/
def Instant.julianNumbers (millis : α) : List α :=
  CalendarDate.julianNumbers (millis / 86400000 + 2440588) ++ TimeOfDay.numbers (millis % 86400000)

end Words

namespace CalendarDate

open CheckedWord

variable {yearWord dayWord : CheckedWord} {year day : Int}

/-- In words, a year and a day that are counted from March give the same numbers. -/
theorem marchNumbers_is (hasYear : yearWord.Is year) (hasDay : dayWord.Is day)
    (near : -1000000000000000000 ≤ year ∧ year ≤ 1000000000000000000)
    (inYear : 0 ≤ day ∧ day ≤ 365) :
    List.Forall₂ CheckedWord.Is (marchNumbers yearWord dayWord) (marchNumbers year day) := by
  have month : ((5 * dayWord + 2) / 153).Is ((5 * day + 2) / 153) :=
    ((Is.mul literal_is hasDay).add literal_is).div literal_is
  -- Counted from March, this is one of twelve months.
  have early : 0 ≤ (5 * day + 2) / 153 ∧ (5 * day + 2) / 153 ≤ 11 := by omega
  dsimp only [marchNumbers]
  generalize (5 * dayWord + 2) / 153 = monthWord at month ⊢
  generalize (5 * day + 2) / 153 = monthOfYear at month early ⊢
  have cycle : (monthWord / 10).Is (monthOfYear / 10) := month.div literal_is
  -- Each of the three numbers is a few steps, all of which stay far within the word.
  refine .cons ?_ (.cons ?_ (.cons ?_ .nil))
  · exact (hasYear.sub literal_is).add cycle
  · exact (month.add literal_is).sub (Is.mul literal_is cycle)
  · have before : ((153 * monthWord + 2) / 5).Is ((153 * monthOfYear + 2) / 5) :=
      ((Is.mul literal_is month).add literal_is).div literal_is
    exact (hasDay.sub before).add literal_is

/-- In words, a day number that is not too far away gives the same numbers. -/
theorem julianNumbers_is (hasDay : dayWord.Is day)
    (near : -1000000000000000000 ≤ day ∧ day ≤ 1000000000000000000) :
    List.Forall₂ CheckedWord.Is (julianNumbers dayWord) (julianNumbers day) := by
  -- The year is computed first, and then what is left of the days.
  have days : (dayWord + 32082).Is (day + 32082) := hasDay.add literal_is
  have years : ((4 * (dayWord + 32082) + 3) / 1461).Is ((4 * (day + 32082) + 3) / 1461) :=
    ((Is.mul literal_is days).add literal_is).div literal_is
  dsimp only [julianNumbers]
  obtain ⟨year, whole⟩ : ∃ year, (4 * (day + 32082) + 3) / 1461 = year := ⟨_, rfl⟩
  -- Less than a year is left of the days.
  have inYear := Calendar.dayOfYear_bounds whole
  rw [whole] at years ⊢
  exact marchNumbers_is years (days.sub ((Is.mul literal_is years).div literal_is)) (by omega)
    (by omega)

/-- In integers, the numbers of a day are those of its Julian date. -/
theorem julianNumbers_int (day : Int) :
    julianNumbers day =
      [(ofJulianDay day).year, (ofJulianDay day).month, (ofJulianDay day).day] := rfl

end CalendarDate

open CheckedWord in
/-- In words, the milliseconds of a day give the same time of day. -/
theorem TimeOfDay.numbers_is {word : CheckedWord} {ofDay : Int} (has : word.Is ofDay)
    (inDay : 0 ≤ ofDay ∧ ofDay < 86400000) :
    List.Forall₂ CheckedWord.Is (numbers word) (numbers ofDay) :=
  -- Each is a quotient or a remainder by a literal, so nothing can overflow.
  .cons (has.div literal_is) (.cons ((has.div literal_is).mod literal_is)
    (.cons ((has.div literal_is).mod literal_is) (.cons (has.mod literal_is) .nil)))

/-- The numbers of a date and of a time of day, in the order of a text. -/
def CalendarDate.numbersAt (date : CalendarDate) (time : TimeOfDay) : List Int :=
  [date.year, date.month, date.day, time.hour, time.minute, time.second, time.milli]

namespace Instant

variable (millis : Int)

/-- In integers, the numbers of an instant are those of its Julian date and its time of day. -/
theorem julianNumbers_int :
    julianNumbers millis =
      (CalendarDate.ofJulianDay (dayNumber millis)).numbersAt (timeOfDay millis) := by
  have nonnegative : 0 ≤ millis % millisPerDay := Int.emod_nonneg _ (by decide)
  -- What is left of a day is not negative, so it can be divided as a natural number.
  have time : TimeOfDay.numbers (millis % millisPerDay) =
      [((timeOfDay millis).hour : Int), ((timeOfDay millis).minute : Int),
        ((timeOfDay millis).second : Int), ((timeOfDay millis).milli : Int)] := by
    simp only [TimeOfDay.numbers, timeOfDay, Int.natCast_ediv, Int.natCast_emod,
      Int.toNat_of_nonneg nonnegative]
    rfl
  show CalendarDate.julianNumbers (dayNumber millis) ++ TimeOfDay.numbers (millis % millisPerDay) = _
  rw [CalendarDate.julianNumbers_int, time]
  rfl

open CheckedWord in
/-- In words, no step from an instant to the numbers of its text overflows. -/
theorem julianNumbers_is (millis : Int64) :
    List.Forall₂ CheckedWord.Is (julianNumbers (⟨some millis⟩ : CheckedWord))
      (julianNumbers millis.toInt) := by
  -- The word and its integer are kept apart from here on, as only the bounds matter.
  have has : CheckedWord.Is ⟨some millis⟩ millis.toInt := ⟨millis, rfl, rfl⟩
  have least := millis.le_toInt
  have greatest := millis.toInt_lt
  generalize (⟨some millis⟩ : CheckedWord) = word at has ⊢
  generalize millis.toInt = n at *
  have days : (word / 86400000 + 2440588).Is (n / 86400000 + 2440588) :=
    (has.div literal_is).add literal_is
  have rest : (word % 86400000).Is (n % 86400000) := has.mod literal_is
  -- The days of all milliseconds in a word are a small part of the words.
  exact List.rel_append (CalendarDate.julianNumbers_is days (by omega))
    (TimeOfDay.numbers_is rest (by omega))

/--
Before the cutover, the Julian date of an instant is the one date of the calendar that has the day
number of the instant, and the next number is that of the day after. The date and the time of day
stand in the text and give the instant back. None of the steps to these numbers overflows in words
of 64 bits, whatever the word of the instant.
-/
theorem julian_dates_invert_day_numbers [CalendarLibrary] {millis : Int64}
    (early : millis.toInt < gregorianCutover) :
    let date := CalendarDate.ofJulianDay (dayNumber millis.toInt)
    let time := timeOfDay millis.toInt
    Calendar.julian.HasDate date ∧
      Calendar.julian.dayNumber date = dayNumber millis.toInt ∧
      (∀ other, Calendar.julian.HasDate other →
        Calendar.julian.dayNumber other = dayNumber millis.toInt → other = date) ∧
      CalendarDate.ofJulianDay (dayNumber millis.toInt + 1) = Calendar.julian.dayAfter date ∧
      (∃ iso, IsoText.ofText? (text millis.toInt) = some iso ∧ iso.date = date ∧
        iso.time = time ∧
        ofDayNumber (Calendar.julian.dayNumber iso.date) iso.time = millis.toInt) ∧
      List.Forall₂ CheckedWord.Is (julianNumbers (⟨some millis⟩ : CheckedWord))
        (date.numbersAt time) := by
  intro date time
  -- The first two parts are what a date of a day number is.
  obtain ⟨held, number⟩ := Calendar.julian.date_spec (dayNumber millis.toInt)
  -- Before the cutover the text is the Julian one, for a timestamp or not.
  have written : text millis.toInt = (isoText .julian millis.toInt).text :=
    (if_pos early).trans (julianText_eq millis.toInt)
  refine ⟨held, number, ?_, Calendar.julian.date_succ _, ?_, ?_⟩
  · intro other held' same
    rw [← held'.date_dayNumber, same]
    rfl
  · refine ⟨isoText .julian millis.toInt, ?_, rfl, rfl, ?_⟩
    · rw [written]
      exact ofText?_isoText .julian millis.toInt
    · show ofDayNumber (Calendar.julian.dayNumber (Calendar.julian.date _)) _ = _
      rw [number]
      exact ofDayNumber_dayNumber millis.toInt
  · rw [← julianNumbers_int]
    exact julianNumbers_is millis

/-- The first instant that a word holds is in the year 292269055 BC. -/
theorem julian_dates_invert_day_numbers_first :
    Int64.minValue.toInt < gregorianCutover ∧
      CalendarDate.ofJulianDay (dayNumber Int64.minValue.toInt) = ⟨-292269054, 12, 2⟩ ∧
      List.Forall₂ CheckedWord.Is (julianNumbers (⟨some Int64.minValue⟩ : CheckedWord))
        [-292269054, 12, 2, 16, 47, 4, 192] := by
  have early : Int64.minValue.toInt < gregorianCutover := by decide
  obtain ⟨_, _, unique, _, _, words⟩ := julian_dates_invert_day_numbers early
  have held : Calendar.julian.HasDate ⟨-292269054, 12, 2⟩ := ⟨by decide, by decide⟩
  -- The date has the day number of the instant, so it is the one that is computed.
  exact ⟨early, (unique _ held (by decide)).symm, words⟩

end Instant

end BsonTable
