import BsonTable.Calendar.Instant
import BsonTable.Proofs.Calendar.Rules

/-!
The civil dates of instants: Julian before the cutover of 1582 and Gregorian from it on. They are
ordered as the days are, also across the ten days left out, and with the time of day they give the
instant back.
-/

namespace BsonTable

/-- The calendar of a civil date; the ten days left out in 1582 have none. -/
def CalendarDate.calendar? (date : CalendarDate) : Option Calendar :=
  -- The dates between the last Julian and the first Gregorian one belong to neither calendar.
  if date.Before ⟨1582, 10, 5⟩ then some .julian
  else if date.Before ⟨1582, 10, 15⟩ then none
  else some .gregorian

/-- A date before the first of two others is before the second. -/
theorem CalendarDate.Before.trans {first second third : CalendarDate}
    (before : first.Before second) (before' : second.Before third) : first.Before third := by
  -- Dates are compared part by part, so this is a matter of the three parts.
  unfold Before at *
  omega

/-- The milliseconds from midnight to a time of day. -/
def TimeOfDay.millis (time : TimeOfDay) : Nat :=
  -- Each part counts how many of the next ones it has in front.
  ((time.hour * 60 + time.minute) * 60 + time.second) * 1000 + time.milli

/-- The times that a day has. -/
structure TimeOfDay.InDay (time : TimeOfDay) : Prop where
  hour : time.hour ≤ 23
  minute : time.minute ≤ 59
  second : time.second ≤ 59
  milli : time.milli ≤ 999

namespace Instant

/-- The calendar in force at an instant. -/
def calendar (millis : Int) : Calendar :=
  if millis < gregorianCutover then .julian else .gregorian

/-- The date of an instant in the calendar in force. -/
def civilDate (millis : Int) : CalendarDate :=
  (calendar millis).date (dayNumber millis)

/-- The instant of a day number and a time of day. -/
def ofDayNumber (day : Int) (time : TimeOfDay) : Int :=
  (day - unixEpochDay) * millisPerDay + time.millis

variable (millis : Int)

/-- The time of day of an instant is one that a day has. -/
theorem timeOfDay_inDay : (timeOfDay millis).InDay := by
  -- A day has so many milliseconds, and each part is what is left of the greater ones.
  have below : millis % millisPerDay < millisPerDay := Int.emod_lt_of_pos _ (by decide)
  have length : millisPerDay = 86400000 := rfl
  constructor <;> dsimp only [timeOfDay] <;> omega

/-- The time of day of an instant is as far from midnight as the instant is. -/
theorem timeOfDay_millis : ((timeOfDay millis).millis : Int) = millis % millisPerDay := by
  -- The parts are quotients and remainders of one number, which they make up again.
  have nonnegative : 0 ≤ millis % millisPerDay := Int.emod_nonneg _ (by decide)
  unfold TimeOfDay.millis
  dsimp only [timeOfDay]
  omega

/-- An instant is that of its day number and its time of day. -/
theorem ofDayNumber_dayNumber : ofDayNumber (dayNumber millis) (timeOfDay millis) = millis := by
  -- A quotient and its remainder give back what was divided.
  rw [ofDayNumber, timeOfDay_millis, dayNumber, Int.add_sub_cancel]
  exact Int.ediv_mul_add_emod millis millisPerDay

/-- Instants are ordered by their days, and within a day by their times. -/
theorem lt_iff {first second : Int} :
    first < second ↔ dayNumber first < dayNumber second ∨
      dayNumber first = dayNumber second ∧ (timeOfDay first).millis < (timeOfDay second).millis := by
  -- The day is a quotient and the time is what is left, so the two compare as the instants do.
  have time := timeOfDay_millis first
  have time' := timeOfDay_millis second
  unfold dayNumber
  unfold millisPerDay at *
  omega

/-- The civil date is one of the calendar in force, of the day that the instant belongs to. -/
theorem civilDate_spec :
    (calendar millis).HasDate (civilDate millis) ∧
      (calendar millis).dayNumber (civilDate millis) = dayNumber millis :=
  (calendar millis).date_spec (dayNumber millis)

/-- The cutover is the start of a day. -/
theorem lt_gregorianCutover_iff :
    millis < gregorianCutover ↔ dayNumber millis < Calendar.gregorian.dayNumber ⟨1582, 10, 15⟩ := by
  -- The day number of the cutover is computed once, and the rest is a division.
  have cutover : Calendar.gregorian.dayNumber ⟨1582, 10, 15⟩ = 2299161 := by decide
  rw [cutover]
  unfold gregorianCutover dayNumber unixEpochDay millisPerDay
  omega

/-- Instants of one day have one civil date. -/
theorem civilDate_congr {first second : Int} (same : dayNumber first = dayNumber second) :
    civilDate first = civilDate second := by
  -- The calendar in force changes at the start of a day, so one day has one calendar.
  have cutover := lt_gregorianCutover_iff first
  rw [same, ← lt_gregorianCutover_iff second] at cutover
  rw [civilDate, civilDate, same, calendar, calendar, if_congr cutover rfl rfl]

/-- A civil date before the cutover is a Julian one, before 5 October 1582. -/
theorem civilDate_before_cutover (early : millis < gregorianCutover) :
    (civilDate millis).Before ⟨1582, 10, 5⟩ := by
  -- The day on which the Julian count would go on is the first Gregorian day.
  have held : Calendar.julian.HasDate ⟨1582, 10, 5⟩ := ⟨by decide, by decide⟩
  have same : Calendar.julian.dayNumber ⟨1582, 10, 5⟩ =
      Calendar.gregorian.dayNumber ⟨1582, 10, 15⟩ := by decide
  obtain ⟨held', number⟩ := Calendar.julian.date_spec (dayNumber millis)
  rw [civilDate, calendar, if_pos early, ← held'.dayNumber_lt_iff held, number, same]
  exact (lt_gregorianCutover_iff millis).mp early

/-- A civil date from the cutover on is a Gregorian one, not before 15 October 1582. -/
theorem civilDate_after_cutover (late : ¬ millis < gregorianCutover) :
    ¬ (civilDate millis).Before ⟨1582, 10, 15⟩ := by
  -- From the cutover on, the day number is at least that of the first Gregorian date.
  have held : Calendar.gregorian.HasDate ⟨1582, 10, 15⟩ := ⟨by decide, by decide⟩
  obtain ⟨held', number⟩ := Calendar.gregorian.date_spec (dayNumber millis)
  rw [civilDate, calendar, if_neg late, ← held'.dayNumber_lt_iff held, number]
  exact fun before => late ((lt_gregorianCutover_iff millis).mpr before)

/-- A civil date tells the calendar in force. -/
theorem calendar?_civilDate : (civilDate millis).calendar? = some (calendar millis) := by
  -- Each side of the cutover has dates on one side of the gap.
  by_cases early : millis < gregorianCutover
  · rw [CalendarDate.calendar?, if_pos (civilDate_before_cutover millis early), calendar,
      if_pos early]
  · have after := civilDate_after_cutover millis early
    have notBefore : ¬ (civilDate millis).Before ⟨1582, 10, 5⟩ :=
      fun before => after (before.trans (by decide))
    rw [CalendarDate.calendar?, if_neg notBefore, if_neg after, calendar, if_neg early]

/-- Later days have later civil dates. -/
theorem civilDate_before {first second : Int} (less : dayNumber first < dayNumber second) :
    (civilDate first).Before (civilDate second) := by
  -- Each instant is on one side of the cutover, and only two sides call for both calendars.
  by_cases early : first < gregorianCutover <;> by_cases early' : second < gregorianCutover
  · rw [civilDate, civilDate, calendar, calendar, if_pos early, if_pos early']
    exact Calendar.julian.date_before_iff.mpr less
  · -- The last Julian date is before the first Gregorian one, by the ten days left out.
    rcases (civilDate second).before_trichotomy ⟨1582, 10, 15⟩ with before | same | after
    · exact absurd before (civilDate_after_cutover second early')
    · rw [same]
      exact (civilDate_before_cutover first early).trans (by decide)
    · exact ((civilDate_before_cutover first early).trans (by decide)).trans after
  · rw [lt_gregorianCutover_iff] at early early'
    omega
  · rw [civilDate, civilDate, calendar, calendar, if_neg early, if_neg early']
    exact Calendar.gregorian.date_before_iff.mpr less

end Instant

end BsonTable
