import BsonTable.Calendar.Date
import Mathlib.Tactic.IntervalCases

/-!
The Julian and the Gregorian calendar by their rules: leap years, lengths of months and the days
counted from them. The date of a day number is a date of its calendar with that day number, and day
numbers are ordered as dates are.
-/

namespace BsonTable

/-- A calendar, which its leap years tell from others. -/
inductive Calendar where
  | julian
  | gregorian
deriving Repr, DecidableEq

namespace Calendar

/-- Whether a year has a leap day. -/
def isLeap : Calendar → Int → Bool
  -- Years are astronomical, so the rule holds before the year 1 without a shift.
  | julian, year => decide (year % 4 = 0)
  | gregorian, year => decide (year % 4 = 0 ∧ (year % 100 ≠ 0 ∨ year % 400 = 0))

/-- The days of a year. -/
def yearLength (calendar : Calendar) (year : Int) : Int :=
  if calendar.isLeap year then 366 else 365

/-- The days of a month. -/
def monthLength (calendar : Calendar) (year month : Int) : Int :=
  if month = 2 then if calendar.isLeap year then 29 else 28
  -- The months of thirty days are named; every other month but February has thirty-one.
  else if month = 4 ∨ month = 6 ∨ month = 9 ∨ month = 11 then 30
  else 31

/-- The days of a year before a month. -/
def daysBefore (calendar : Calendar) (year month : Int) : Int :=
  -- The months before it are those with a smaller number, counted from one.
  ((List.range (month - 1).toNat).map fun earlier : Nat =>
    calendar.monthLength year (earlier + 1)).sum

/-- The day number of the first of January of a year. -/
def yearStart : Calendar → Int → Int
  -- The quotients count the leap years before the year, rounded so that the year zero is one.
  | julian, year => 1721058 + 365 * year + (year + 3) / 4
  | gregorian, year =>
    1721060 + 365 * year + (year + 3) / 4 - (year + 99) / 100 + (year + 399) / 400

/-- The Julian day number of a date. -/
def dayNumber (calendar : Calendar) (date : CalendarDate) : Int :=
  -- The first day of a month is the first of the days in it.
  calendar.yearStart date.year + calendar.daysBefore date.year date.month + date.day - 1

/-- The dates that a calendar has. -/
structure HasDate (calendar : Calendar) (date : CalendarDate) : Prop where
  month : 1 ≤ date.month ∧ date.month ≤ 12
  day : 1 ≤ date.day ∧ date.day ≤ calendar.monthLength date.year date.month

variable (calendar : Calendar) {year month : Int}

/-- A year starts where the year before it ends. -/
theorem yearStart_succ (year : Int) :
    calendar.yearStart (year + 1) = calendar.yearStart year + calendar.yearLength year := by
  -- The quotients go up by one exactly behind a year that they count as a leap year.
  cases calendar <;> simp only [yearStart, yearLength, isLeap, decide_eq_true_eq] <;> split <;> omega

-- Day numbers are counted from the first of January 4713 BC in the Julian calendar.
example : julian.yearStart (-4712) = 0 := by decide

example : gregorian.yearStart 1970 = 2440588 := by decide

/-- A month starts where the month before it ends. -/
theorem daysBefore_succ (year : Int) (positive : 1 ≤ month) :
    calendar.daysBefore year (month + 1) =
      calendar.daysBefore year month + calendar.monthLength year month := by
  -- The sum runs over natural numbers, so the month is written as one more than such a number.
  obtain ⟨earlier, rfl⟩ : ∃ earlier : ℕ, month = earlier + 1 := ⟨(month - 1).toNat, by omega⟩
  have next : ((earlier : Int) + 1 + 1 - 1).toNat = earlier + 1 := by omega
  have this : ((earlier : Int) + 1 - 1).toNat = earlier := by omega
  rw [daysBefore, daysBefore, next, this, List.range_succ, List.map_append, List.sum_append,
    List.map_singleton, List.sum_singleton]

/-- The days before March, and from there in cycles of five months. -/
theorem daysBefore_eq (year : Int) (first : 1 ≤ month) (last : month ≤ 12) :
    calendar.daysBefore year month =
      if month ≤ 2 then 31 * (month - 1)
      else calendar.yearLength year - 306 + CalendarDate.daysBeforeMonth month := by
  -- There are twelve sums to compare, in leap years and in others.
  unfold daysBefore yearLength
  cases leap : calendar.isLeap year <;> interval_cases month <;>
    simp [List.range_succ, monthLength, leap, CalendarDate.daysBeforeMonth]

/-- No month is shorter than 28 days. -/
theorem monthLength_ge (year month : Int) : 28 ≤ calendar.monthLength year month := by
  -- The shortest month is February in a common year.
  unfold monthLength
  split_ifs <;> decide

/-- Months end before the next one starts, and the last one with the year. -/
theorem daysBefore_add_le {later : Int} (year : Int) (first : 1 ≤ month) (less : month < later) :
    calendar.daysBefore year month + calendar.monthLength year month ≤
      calendar.daysBefore year later := by
  rw [← calendar.daysBefore_succ year first]
  -- By induction on the later month: no month has less than no days.
  induction later, less using Int.leInduction with
  | base => exact le_rfl
  | succ later above ih =>
    have length := calendar.monthLength_ge year later
    have next := calendar.daysBefore_succ year (show 1 ≤ later by omega)
    omega

/-- No year is shorter than 365 days. -/
theorem yearLength_ge (year : Int) : 365 ≤ calendar.yearLength year := by
  unfold yearLength
  split_ifs <;> decide

/-- A year ends before any later year starts. -/
theorem yearStart_add_le {later : Int} (less : year < later) :
    calendar.yearStart year + calendar.yearLength year ≤ calendar.yearStart later := by
  rw [← calendar.yearStart_succ]
  -- By induction on the later year, as for months.
  induction later, less using Int.leInduction with
  | base => exact le_rfl
  | succ later above ih =>
    have length := calendar.yearLength_ge later
    have next := calendar.yearStart_succ later
    omega

/-- No month is longer than 31 days. -/
theorem monthLength_le (year month : Int) : calendar.monthLength year month ≤ 31 := by
  unfold monthLength
  split_ifs <;> decide

/-- The month after December would start where the year ends. -/
theorem daysBefore_thirteen (year : Int) :
    calendar.daysBefore year 13 = calendar.yearLength year := by
  -- The month does not exist, but the sum of the twelve is where it would start.
  refine (calendar.daysBefore_succ year (show 1 ≤ 12 by decide)).trans ?_
  rw [calendar.daysBefore_eq year (by decide) (by decide)]
  simp only [monthLength, CalendarDate.daysBeforeMonth]
  norm_num
  omega

/-- The days before a month are those of the months of the year, and no more. -/
theorem daysBefore_bounds (year : Int) (first : 1 ≤ month) (last : month ≤ 12) :
    0 ≤ calendar.daysBefore year month ∧
      calendar.daysBefore year month + calendar.monthLength year month ≤
        calendar.yearLength year := by
  -- A month ends before the thirteenth would start, which is the end of the year.
  have after := calendar.daysBefore_add_le year first (show month < 13 by omega)
  refine ⟨?_, calendar.daysBefore_thirteen year ▸ after⟩
  have start := calendar.daysBefore_eq year first last
  have length := calendar.yearLength_ge year
  unfold CalendarDate.daysBeforeMonth at start
  split_ifs at start <;> omega

section Order

variable {calendar : Calendar} {date other : CalendarDate}

/-- The day number of a date lies in its month. -/
theorem HasDate.dayNumber_mem_month (held : calendar.HasDate date) :
    calendar.yearStart date.year + calendar.daysBefore date.year date.month ≤
        calendar.dayNumber date ∧
      calendar.dayNumber date < calendar.yearStart date.year +
        (calendar.daysBefore date.year date.month +
          calendar.monthLength date.year date.month) := by
  -- The day is at least the first and at most the last one of its month.
  have day := held.day
  unfold dayNumber
  omega

/-- The day number of a date lies in its year. -/
theorem HasDate.dayNumber_mem_year (held : calendar.HasDate date) :
    calendar.yearStart date.year ≤ calendar.dayNumber date ∧
      calendar.dayNumber date < calendar.yearStart date.year + calendar.yearLength date.year := by
  -- The month lies in the year with all of its days.
  have inMonth := held.dayNumber_mem_month
  have bounds := calendar.daysBefore_bounds date.year held.month.1 held.month.2
  omega

/-- A date lies before a year exactly when its day number lies before the start of that year. -/
theorem HasDate.year_lt_iff (held : calendar.HasDate date) (year : Int) :
    date.year < year ↔ calendar.dayNumber date < calendar.yearStart year := by
  have inYear := held.dayNumber_mem_year
  -- Years do not overlap, so each way in which the years can stand decides about the days.
  rcases lt_trichotomy date.year year with before | rfl | after
  · have ends := calendar.yearStart_add_le before
    omega
  · omega
  · have starts := calendar.yearStart_add_le after
    have length := calendar.yearLength_ge year
    omega

end Order

end Calendar

/-- Whether a date comes before another one, by year, month and day. -/
def CalendarDate.Before (date other : CalendarDate) : Prop :=
  date.year < other.year ∨ date.year = other.year ∧
    (date.month < other.month ∨ date.month = other.month ∧ date.day < other.day)

instance : DecidableRel CalendarDate.Before :=
  fun date other => inferInstanceAs (Decidable
    (date.year < other.year ∨ date.year = other.year ∧
      (date.month < other.month ∨ date.month = other.month ∧ date.day < other.day)))

/-- Of two dates, one comes before the other unless they are the same. -/
theorem CalendarDate.before_trichotomy (date other : CalendarDate) :
    date.Before other ∨ date = other ∨ other.Before date := by
  obtain ⟨year, month, day⟩ := date
  obtain ⟨year', month', day'⟩ := other
  -- Of two numbers one is less or both are equal, and so for the three parts in turn.
  simp only [Before, CalendarDate.mk.injEq]
  omega

namespace Calendar

variable {calendar : Calendar} {date other : CalendarDate}

/-- Earlier dates have smaller day numbers. -/
theorem HasDate.dayNumber_lt (held : calendar.HasDate date) (held' : calendar.HasDate other)
    (before : date.Before other) : calendar.dayNumber date < calendar.dayNumber other := by
  rcases before with year | ⟨year, month | ⟨month, day⟩⟩
  · -- The year of the first date ends before that of the second one starts.
    have ends := calendar.yearStart_add_le year
    have inYear := held.dayNumber_mem_year
    have inYear' := held'.dayNumber_mem_year
    omega
  · have ends := calendar.daysBefore_add_le date.year held.month.1 month
    have inMonth := held.dayNumber_mem_month
    have inMonth' := held'.dayNumber_mem_month
    rw [← year] at inMonth'
    omega
  · unfold dayNumber
    rw [year, month]
    omega

/-- Day numbers are ordered as the dates are that they belong to. -/
theorem HasDate.dayNumber_lt_iff (held : calendar.HasDate date) (held' : calendar.HasDate other) :
    calendar.dayNumber date < calendar.dayNumber other ↔ date.Before other := by
  -- Were the dates not ordered so, they would be one or ordered the other way round.
  refine ⟨fun less => ?_, held.dayNumber_lt held'⟩
  rcases date.before_trichotomy other with before | rfl | after
  · exact before
  · exact absurd less (lt_irrefl _)
  · exact absurd less (held'.dayNumber_lt held after).asymm

/-- From March on, lengths of months repeat every five months. -/
theorem monthLength_eq (calendar : Calendar) (year : Int) {month : Int} (march : 3 ≤ month)
    (last : month ≤ 12) :
    calendar.monthLength year month =
      CalendarDate.daysBeforeMonth (month + 1) - CalendarDate.daysBeforeMonth month := by
  interval_cases month <;> rfl

/-- The first of March stands 306 days before the year after. -/
theorem dayNumber_march (calendar : Calendar) (year : Int) :
    calendar.dayNumber ⟨year, 3, 1⟩ = calendar.yearStart (year + 1) - 306 := by
  -- The days before March depend on the leap day, which the start of the next year counts too.
  have before := calendar.daysBefore_eq year (show (1 : Int) ≤ 3 by decide) (by decide)
  rw [if_neg (by decide)] at before
  unfold dayNumber
  dsimp only
  rw [before, calendar.yearStart_succ, CalendarDate.daysBeforeMonth]
  omega

/--
A day of a year that is counted from March is a date, and the days are counted from the first of
March. The year ends with February of the year after, which decides about its last day.
-/
theorem dayNumber_ofMarchYear (calendar : Calendar) {year dayOfYear : Int} (first : 0 ≤ dayOfYear)
    (last : dayOfYear < 365 ∨ dayOfYear = 365 ∧ calendar.isLeap (year - 4799) = true) :
    calendar.HasDate (.ofMarchYear year dayOfYear) ∧
      calendar.dayNumber (.ofMarchYear year dayOfYear) =
        calendar.dayNumber ⟨year - 4800, 3, 1⟩ + dayOfYear := by
  -- Counted from March, the leap day is the last day, so months start at fixed days.
  have march := calendar.dayNumber_march (year - 4800)
  have next := calendar.yearStart_succ (year - 4800)
  have after : year - 4800 + 1 = year - 4799 := by omega
  rw [after] at march next
  rw [march]
  unfold CalendarDate.ofMarchYear
  obtain ⟨month, same⟩ : ∃ month, (5 * dayOfYear + 2) / 153 = month := ⟨_, rfl⟩
  simp only [same]
  rcases lt_or_ge month 10 with december | january
  · -- March to December belong to the year that is counted.
    have early : month / 10 = 0 := by omega
    have length := calendar.monthLength_eq (year - 4800) (show 3 ≤ month + 3 by omega) (by omega)
    have before := calendar.daysBefore_eq (year - 4800) (show 1 ≤ month + 3 by omega) (by omega)
    rw [if_neg (by omega)] at before
    unfold CalendarDate.daysBeforeMonth at length before
    rw [Int.add_right_comm, Int.add_sub_cancel, Int.add_sub_cancel] at length
    rw [Int.add_sub_cancel] at before
    simp only [early]
    refine ⟨⟨by dsimp only; omega, ?_⟩, ?_⟩
    · dsimp only
      rw [mul_zero, sub_zero, add_zero, length]
      omega
    · unfold dayNumber
      dsimp only
      rw [mul_zero, sub_zero, add_zero, before]
      omega
  · -- January and February belong to the year after.
    have late : month / 10 = 1 := by omega
    have before := calendar.daysBefore_eq (year - 4799) (show 1 ≤ month + 3 - 12 by omega) (by omega)
    rw [if_pos (by omega)] at before
    simp only [late, mul_one, after]
    refine ⟨⟨by dsimp only; omega, ?_⟩, ?_⟩
    · -- Only a leap year has the last of 366 days.
      dsimp only
      unfold monthLength
      rcases last with short | ⟨full, leap⟩
      · split_ifs <;> omega
      · rw [if_pos leap]
        split_ifs <;> omega
    · unfold dayNumber
      dsimp only
      rw [before]
      omega

end Calendar

/-- The date of a day number. -/
def Calendar.date : Calendar → Int → CalendarDate
  | julian => CalendarDate.ofJulianDay
  | gregorian => CalendarDate.ofGregorianDay

namespace Calendar

/-- A Julian year that is counted from March starts after years of 365 days and their leap days. -/
theorem julian_dayNumber_march (year : Int) :
    julian.dayNumber ⟨year - 4800, 3, 1⟩ = 1461 * year / 4 - 32082 := by
  -- The quotients of both counts differ by a constant.
  rw [dayNumber_march, yearStart]
  omega

/-- A Gregorian year that is counted from March starts after centuries and years of its own one. -/
theorem gregorian_dayNumber_march (century : Int) {year : Int} (first : 0 ≤ year)
    (last : year ≤ 99) :
    gregorian.dayNumber ⟨100 * century + year - 4800, 3, 1⟩ =
      146097 * century / 4 + 1461 * year / 4 - 32044 := by
  -- Each quotient is taken apart into years, centuries and their leap days.
  have days : 1461 * year / 4 = 365 * year + year / 4 := by omega
  have centuryDays : 146097 * century / 4 = 36524 * century + century / 4 := by omega
  have leaps : (100 * century + year - 4800 + 1 + 3) / 4 = 25 * century + year / 4 - 1199 := by
    omega
  have skipped : (100 * century + year - 4800 + 1 + 99) / 100 = century - 47 := by omega
  have kept : (100 * century + year - 4800 + 1 + 399) / 400 = century / 4 - 11 := by omega
  rw [dayNumber_march, yearStart, days, centuryDays, leaps, skipped, kept]
  omega

/-- Of days in years of which the fourth has 366, the last of these is the only one above 365. -/
theorem dayOfYear_bounds {days year : Int} (whole : (4 * days + 3) / 1461 = year) :
    0 ≤ days - 1461 * year / 4 ∧
      (days - 1461 * year / 4 < 365 ∨ days - 1461 * year / 4 = 365 ∧ year % 4 = 3) := by
  have before : 1461 * year / 4 = 365 * year + year / 4 := by omega
  rw [before]
  have four : year % 4 = 0 ∨ year % 4 = 1 ∨ year % 4 = 2 ∨ year % 4 = 3 := by omega
  rcases four with first | second | third | fourth <;> omega

/-- Of days in centuries of which the fourth has 36525, the last of these is the only one above. -/
theorem dayOfCentury_bounds {days century : Int} (whole : (4 * days + 3) / 146097 = century) :
    0 ≤ days - 146097 * century / 4 ∧
      (days - 146097 * century / 4 < 36524 ∨
        days - 146097 * century / 4 = 36524 ∧ century % 4 = 3) := by
  -- The same division for centuries, which have 36524 days and every fourth time one more.
  have before : 146097 * century / 4 = 36524 * century + century / 4 := by omega
  rw [before]
  have four : century % 4 = 0 ∨ century % 4 = 1 ∨ century % 4 = 2 ∨ century % 4 = 3 := by omega
  rcases four with first | second | third | fourth <;> omega

/-- The last of 366 days comes in leap years only: a century has it at its end when it is a
fourth. -/
theorem gregorian_isLeap_march {century rest year : Int} (inside : 0 ≤ year ∧ year ≤ 99)
    (last : rest < 36524 ∨ rest = 36524 ∧ century % 4 = 3) (full : rest - 1461 * year / 4 = 365)
    (fourth : year % 4 = 3) : gregorian.isLeap (100 * century + year - 4799) = true := by
  -- The year that February is in is a fourth one, so only the end of a century is in doubt.
  refine decide_eq_true ⟨by omega, ?_⟩
  rcases inside.2.lt_or_eq with other | rfl
  · left
    omega
  · have closing : century % 4 = 3 := by omega
    right
    omega

/-- The date of a day number is a date of the calendar, and has that day number. -/
theorem date_spec (calendar : Calendar) (day : Int) :
    calendar.HasDate (calendar.date day) ∧ calendar.dayNumber (calendar.date day) = day := by
  cases calendar with
  | julian =>
    dsimp only [date, CalendarDate.ofJulianDay]
    obtain ⟨year, whole⟩ : ∃ year, (4 * (day + 32082) + 3) / 1461 = year := ⟨_, rfl⟩
    obtain ⟨first, last⟩ := dayOfYear_bounds whole
    rw [whole]
    -- Every fourth Julian year has its leap day at the end.
    have leap : year % 4 = 3 → julian.isLeap (year - 4799) = true := fun fourth =>
      decide_eq_true (by omega)
    have counted := julian.dayNumber_ofMarchYear first (last.imp_right (And.imp_right leap))
    rw [julian_dayNumber_march] at counted
    exact ⟨counted.1, counted.2.trans (by omega)⟩
  | gregorian =>
    dsimp only [date, CalendarDate.ofGregorianDay]
    obtain ⟨century, whole⟩ : ∃ century, (4 * (day + 32044) + 3) / 146097 = century := ⟨_, rfl⟩
    obtain ⟨first, last⟩ := dayOfCentury_bounds whole
    rw [whole]
    obtain ⟨rest, inCentury⟩ : ∃ rest, day + 32044 - 146097 * century / 4 = rest := ⟨_, rfl⟩
    rw [inCentury] at first last ⊢
    obtain ⟨year, inYear⟩ : ∃ year, (4 * rest + 3) / 1461 = year := ⟨_, rfl⟩
    -- The days within a century are less than a hundred years.
    have inside : 0 ≤ year ∧ year ≤ 99 := by omega
    obtain ⟨first', last'⟩ := dayOfYear_bounds inYear
    rw [inYear]
    have leap : rest - 1461 * year / 4 = 365 ∧ year % 4 = 3 →
        rest - 1461 * year / 4 = 365 ∧ gregorian.isLeap (100 * century + year - 4799) = true :=
      fun closing => ⟨closing.1, gregorian_isLeap_march inside last closing.1 closing.2⟩
    have counted := gregorian.dayNumber_ofMarchYear first' (last'.imp_right leap)
    rw [gregorian_dayNumber_march century inside.1 inside.2] at counted
    exact ⟨counted.1, counted.2.trans (by omega)⟩

section Days

variable (calendar : Calendar) {day other : Int}

/-- A date of the calendar is the date of its day number. -/
theorem HasDate.date_dayNumber {calendar : Calendar} {date : CalendarDate}
    (held : calendar.HasDate date) : calendar.date (calendar.dayNumber date) = date := by
  -- Two dates of the calendar with one day number cannot stand before one another.
  have spec := calendar.date_spec (calendar.dayNumber date)
  rcases (calendar.date (calendar.dayNumber date)).before_trichotomy date with before | same | after
  · exact absurd (spec.1.dayNumber_lt held before) (by rw [spec.2]; exact lt_irrefl _)
  · exact same
  · exact absurd (held.dayNumber_lt spec.1 after) (by rw [spec.2]; exact lt_irrefl _)

/-- Dates are ordered as the day numbers are that they belong to. -/
theorem date_before_iff : (calendar.date day).Before (calendar.date other) ↔ day < other := by
  -- The dates belong to their day numbers, so the order of dates is known from that of numbers.
  have spec := calendar.date_spec day
  have spec' := calendar.date_spec other
  rw [← spec.1.dayNumber_lt_iff spec'.1, spec.2, spec'.2]

end Days

/-- The days from 1 March 200 to 28 February 300. -/
def Agree (day : Int) : Prop :=
  gregorian.dayNumber ⟨200, 3, 1⟩ ≤ day ∧ day ≤ gregorian.dayNumber ⟨300, 2, 28⟩

instance : DecidablePred Agree :=
  fun day => inferInstanceAs (Decidable
    (gregorian.dayNumber ⟨200, 3, 1⟩ ≤ day ∧ day ≤ gregorian.dayNumber ⟨300, 2, 28⟩))

/-- The days on which calendars agree, by their numbers. -/
theorem agree_iff (day : Int) : Agree day ↔ 1794168 ≤ day ∧ day ≤ 1830691 := by
  -- The two bounds are computed once.
  have first : gregorian.dayNumber ⟨200, 3, 1⟩ = 1794168 := by decide
  have last : gregorian.dayNumber ⟨300, 2, 28⟩ = 1830691 := by decide
  rw [Agree, first, last]

/-- Both calendars name a day alike exactly on the days on which they agree. -/
theorem date_eq_iff (day : Int) : julian.date day = gregorian.date day ↔ Agree day := by
  rw [agree_iff]
  constructor
  · intro same
    obtain ⟨held, number⟩ := julian.date_spec day
    obtain ⟨held', number'⟩ := gregorian.date_spec day
    rw [← same] at held' number'
    generalize julian.date day = date at held number held' number'
    have months := held.month
    have inMonth := held'.day
    have short := gregorian.monthLength_le date.year date.month
    unfold dayNumber at number number'
    rw [julian.daysBefore_eq date.year months.1 months.2] at number
    rw [gregorian.daysBefore_eq date.year months.1 months.2] at number'
    -- The leap days left out up to the date are as many as the calendars start apart.
    rcases le_or_gt date.month 2 with early | late
    · simp only [if_pos early, yearStart] at number number'
      have skipped : (date.year + 99) / 100 - (date.year + 399) / 400 = 2 := by omega
      have years : 201 ≤ date.year ∧ date.year ≤ 300 := by omega
      -- February of the year 300 is the one that ends differently.
      have february : date.year = 300 → date.month = 2 → date.day ≤ 28 := fun year month => by
        rw [year, month] at inMonth
        exact inMonth.2
      omega
    · have next := julian.yearStart_succ date.year
      have next' := gregorian.yearStart_succ date.year
      rw [if_neg (by omega)] at number number'
      unfold CalendarDate.daysBeforeMonth at number number'
      simp only [yearStart] at number number' next next'
      have skipped : (date.year + 1 + 99) / 100 - (date.year + 1 + 399) / 400 = 2 := by omega
      have years : 200 ≤ date.year ∧ date.year ≤ 299 := by omega
      omega
  · rintro ⟨above, below⟩
    -- Both counts start 38 days apart, and 38 leap days are left out before this century.
    dsimp only [date, CalendarDate.ofJulianDay, CalendarDate.ofGregorianDay]
    have century : (4 * (day + 32044) + 3) / 146097 = 50 := by omega
    have rest : day + 32044 - 146097 * 50 / 4 = day - 1794168 := by omega
    rw [century, rest]
    have year : (4 * (day + 32082) + 3) / 1461 = 5000 + (4 * (day - 1794168) + 3) / 1461 := by omega
    rw [year]
    congr 1
    omega

end Calendar

end BsonTable
