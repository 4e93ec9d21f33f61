import BsonTable.Bson.Text
import BsonTable.Proofs.Calendar.CalendarLibrary
import BsonTable.Proofs.Calendar.CivilDate
import BsonTable.Proofs.Text.Slots
import Mathlib.Data.List.Forall2

/-!
What the texts of instants say when they are read as ISO 8601: the civil date and the time of day of
the instant, each in its range. The year has four digits at least, except where a minus sign counts
as one of four characters.
-/

namespace BsonTable

/-- The parts of an ISO 8601 text in UTC, down to the millisecond. -/
structure IsoText where
  sign : List Char
  yearDigits : List Char
  date : CalendarDate
  time : TimeOfDay
deriving Repr, DecidableEq

namespace IsoText

/-- The slots behind the year and its hyphen. -/
def slots : List Text.Slot :=
  [⟨2, '-'⟩, ⟨2, 'T'⟩, ⟨2, ':'⟩, ⟨2, ':'⟩, ⟨2, '.'⟩, ⟨3, 'Z'⟩]

/-- The numbers behind the year. -/
def fields (date : CalendarDate) (time : TimeOfDay) : List Nat :=
  [date.month.toNat, date.day.toNat, time.hour, time.minute, time.second, time.milli]

/-- Whether a character is a sign. -/
def isSign (c : Char) : Bool :=
  c == '+' || c == '-'

/-- The parts of a text that consists of a signed year and fields of fixed layout. -/
def ofText? (cs : List Char) : Option IsoText := do
  -- The sign and the digits are told by their characters, and all that follows has a fixed length.
  let sign := cs.takeWhile isSign
  let rest := cs.dropWhile isSign
  let yearDigits := rest.takeWhile Char.isDigit
  let year ← Text.readInteger? (sign ++ yearDigits)
  let rest ← Instant.takeChar? '-' (rest.dropWhile Char.isDigit)
  match ← Text.readSlots? slots rest with
  | ([month, day, hour, minute, second, milli], []) =>
    some ⟨sign, yearDigits, ⟨year, month, day⟩, ⟨hour, minute, second, milli⟩⟩
  | _ => none

/-- The text of given parts. -/
def text (iso : IsoText) : List Char :=
  iso.sign ++ iso.yearDigits ++ Instant.fieldsText iso.date iso.time ++ Instant.millisText iso.time

/-- The fields that ISO 8601 allows behind the year. -/
structure InRange (iso : IsoText) : Prop where
  month : 1 ≤ iso.date.month ∧ iso.date.month ≤ 12
  day : 1 ≤ iso.date.day ∧ iso.date.day ≤ 31
  hour : iso.time.hour ≤ 23
  minute : iso.time.minute ≤ 59
  second : iso.time.second ≤ 59

/-- ISO 8601 text: fields in range, and four digits of the year at least, whatever its sign. -/
structure IsStandard (iso : IsoText) : Prop where
  inRange : iso.InRange
  year : 4 ≤ iso.yearDigits.length
  sign : iso.date.year < 0 → iso.sign = ['-']

end IsoText

namespace Instant

open IsoText hiding text

variable {date : CalendarDate} {time : TimeOfDay}

/-- The fields of a date and of a time of day fit their slots. -/
theorem fitSlots {calendar : Calendar} (held : calendar.HasDate date) (inDay : time.InDay) :
    Text.FitSlots slots (fields date time) := by
  -- Each bound is one of the calendar or of a day, and a slot of two digits holds them all.
  have month := held.month
  have day := held.day
  have short := calendar.monthLength_le date.year date.month
  have hour := inDay.hour
  have minute := inDay.minute
  have second := inDay.second
  have milli := inDay.milli
  unfold Text.FitSlots slots fields
  simp only [List.forall₂_cons, List.forall₂_nil_left_iff]
  norm_num
  omega

/-- A date and a time of day are written into the slots, behind the hyphen of the year. -/
theorem fieldsText_append_millisText (date : CalendarDate) (time : TimeOfDay) :
    fieldsText date time ++ millisText time = '-' :: Text.writeSlots slots (fields date time) := by
  -- The marks that were written are those that close the slots.
  simp [fieldsText, millisText, slots, fields, Text.writeSlots]

/-- A padded numeral starts with a digit, which is no sign. -/
theorem paddedNumeral_start (width value : Nat) :
    ∃ first rest, Text.paddedNumeral width value = first :: rest ∧ isSign first = false := by
  -- There is a first character, as the numeral is never empty.
  have length := Text.length_paddedNumeral_eq width value
  have digits := Text.isDigit_of_mem_paddedNumeral width value
  cases numeral : Text.paddedNumeral width value with
  | nil =>
    rw [numeral, List.length_nil] at length
    omega
  | cons first rest =>
    refine ⟨first, rest, rfl, ?_⟩
    have digit := digits first (numeral ▸ List.mem_cons_self)
    cases sign : isSign first with
    | false => rfl
    | true =>
      simp only [isSign, Bool.or_eq_true, beq_iff_eq] at sign
      rcases sign with rfl | rfl <;> exact absurd digit (by decide)

/-- A year is read back from its sign and its digits. -/
theorem readInteger?_signedYear {sign : List Char} {year : Int} (width : Nat)
    (signed : if year < 0 then sign = ['-'] else sign = [] ∨ sign = ['+']) :
    Text.readInteger? (sign ++ Text.paddedNumeral width year.natAbs) = some year := by
  obtain ⟨first, rest, numeral, unsigned⟩ := paddedNumeral_start width year.natAbs
  have read : Text.readNumeral? (first :: rest) = some year.natAbs := by
    rw [← numeral, ← Text.readDigits?_paddedNumeral width year.natAbs, Text.readNumeral?, numeral]
    rfl
  rw [numeral]
  -- A digit in front is no sign, so that what is split off is the sign that was written.
  split_ifs at signed with negative
  · subst signed
    have back : -(year.natAbs : Int) = year := by omega
    simp only [Text.readInteger?, List.singleton_append, Text.splitSign, read,
      Option.bind_eq_bind, Option.bind_some, if_true, back]
    rfl
  · have nonnegative : (year.natAbs : Int) = year := by omega
    rcases signed with rfl | rfl
    · have plain : Text.splitSign (first :: rest) = (false, first :: rest) := by
        unfold Text.splitSign
        split <;> first | rfl | simp_all [isSign]
      simp [Text.readInteger?, plain, read, nonnegative]
    · simp [Text.readInteger?, Text.splitSign, read, nonnegative]

/-- A text of a signed year, a date and a time of day is read back. -/
theorem ofText?_eq {calendar : Calendar} (held : calendar.HasDate date) (inDay : time.InDay)
    {sign : List Char} (width : Nat)
    (signed : if date.year < 0 then sign = ['-'] else sign = [] ∨ sign = ['+']) :
    ofText? (sign ++ Text.paddedNumeral width date.year.natAbs ++ fieldsText date time ++
        millisText time) =
      some ⟨sign, Text.paddedNumeral width date.year.natAbs, date, time⟩ := by
  -- Month and day are written as natural numbers, which they are.
  have months := held.month
  have days := held.day
  have month : (date.month.toNat : Int) = date.month := Int.toNat_of_nonneg (by omega)
  have day : (date.day.toNat : Int) = date.day := Int.toNat_of_nonneg (by omega)
  have signs : ∀ c ∈ sign, isSign c = true := by
    split_ifs at signed with negative
    · simp [signed, isSign]
    · rcases signed with rfl | rfl <;> simp [isSign]
  have year := readInteger?_signedYear width signed
  have digits := Text.isDigit_of_mem_paddedNumeral width date.year.natAbs
  have read := Text.readSlots?_writeSlots (fitSlots held inDay) []
  obtain ⟨first, rest, numeral, unsigned⟩ := paddedNumeral_start width date.year.natAbs
  rw [List.append_assoc, fieldsText_append_millisText, List.append_assoc]
  -- The sign ends with the first digit, and the digits with the hyphen.
  have signPart := Text.span_append_cons signs unsigned
    (rest ++ '-' :: Text.writeSlots slots (fields date time))
  have yearPart := Text.span_append_cons digits (show Char.isDigit '-' = false by decide)
    (Text.writeSlots slots (fields date time))
  rw [← List.cons_append, ← numeral] at signPart
  rw [List.append_nil] at read
  unfold ofText?
  simp only [signPart, yearPart, year, Option.bind_eq_bind, Option.bind_some, Instant.takeChar?,
    if_true, read]
  simp only [fields, month, day]

/-- The sign of a year in the texts of a calendar. -/
def yearSign (calendar : Calendar) (year : Int) : List Char :=
  if year < 0 then ['-']
  else if calendar = .gregorian ∧ 9999 < year then ['+']
  else []

/-- The width to which the digits of a year are filled. -/
def yearWidth (calendar : Calendar) (year : Int) : Nat :=
  if calendar = .julian ∧ year < 0 then 3 else 4

/-- The parts of the text of an instant in a calendar. -/
def isoText (calendar : Calendar) (millis : Int) : IsoText :=
  let date := calendar.date (dayNumber millis)
  { sign := yearSign calendar date.year
    yearDigits := Text.paddedNumeral (yearWidth calendar date.year) date.year.natAbs
    date := date
    time := timeOfDay millis }

/-- A year has the sign that it is read back with. -/
theorem yearSign_spec (calendar : Calendar) (year : Int) :
    if year < 0 then yearSign calendar year = ['-']
    else yearSign calendar year = [] ∨ yearSign calendar year = ['+'] := by
  -- The three cases are those of the definition.
  unfold yearSign
  split_ifs <;> simp

/-- A year has a minus sign exactly when it is negative. -/
theorem yearSign_eq_minus_iff (calendar : Calendar) (year : Int) :
    yearSign calendar year = ['-'] ↔ year < 0 := by
  -- A plus sign and no sign are both other than a minus.
  unfold yearSign
  split_ifs with negative <;> simp [negative]

/-- A year from 0 to 9999 has no sign and four digits in both calendars. -/
theorem plain_year (calendar : Calendar) {year : Int} (plain : 0 ≤ year ∧ year < 10000) :
    yearSign calendar year = [] ∧ yearWidth calendar year = 4 := by
  -- Neither the sign nor the narrow width applies to such a year.
  rw [yearSign, yearWidth, if_neg (by omega), if_neg (by omega), if_neg (by omega)]
  exact ⟨rfl, rfl⟩

/-- A Julian year has the sign and the width of its calendar. -/
theorem julianYearText_eq (year : Int) :
    julianYearText year =
      yearSign .julian year ++ Text.paddedNumeral (yearWidth .julian year) year.natAbs := by
  -- The sign counts as a character of the year, so the width depends on it.
  unfold julianYearText yearSign yearWidth
  split_ifs <;> simp_all

/-- A Gregorian year has the sign and the width of its calendar. -/
theorem yearText_eq (year : Int) :
    yearText year =
      yearSign .gregorian year ++ Text.paddedNumeral (yearWidth .gregorian year) year.natAbs := by
  -- The Gregorian year is always filled to four digits, and a long one has a plus.
  unfold yearText yearSign yearWidth
  split_ifs <;> simp_all

/-- Julian text consists of the parts in the Julian calendar. -/
theorem julianText_eq (millis : Int) : julianText millis = (isoText .julian millis).text := by
  rw [julianText, julianYearText_eq]
  rfl

/-- Gregorian text consists of the parts in the Gregorian calendar. -/
theorem gregorianText_eq (millis : Int) :
    gregorianText millis = (isoText .gregorian millis).text := by
  rw [gregorianText, yearText_eq]
  rfl

/-- The text of an instant before the cutover, or of a timestamp, is in the calendar in force. -/
theorem text_eq [CalendarLibrary] [LawfulCalendarLibrary] {millis : Int}
    (known : millis < gregorianCutover ∨ CalendarLibrary.isTimestamp millis = true) :
    text millis = (isoText (calendar millis) millis).text := by
  -- Of the three texts, the last one is for instants that are not known.
  unfold text calendar
  split_ifs with early timestamp
  · exact julianText_eq millis
  · rw [LawfulCalendarLibrary.isoText_eq timestamp]
    exact gregorianText_eq millis
  · exact absurd known (by simp [early, timestamp])

/-- The parts of the text of an instant are read back. -/
theorem ofText?_isoText (calendar : Calendar) (millis : Int) :
    ofText? (isoText calendar millis).text = some (isoText calendar millis) :=
  ofText?_eq (calendar.date_spec (dayNumber millis)).1 (timeOfDay_inDay millis) _
    (yearSign_spec calendar _)

/-- The fields of the text of an instant are in range. -/
theorem isoText_inRange (calendar : Calendar) (millis : Int) :
    (isoText calendar millis).InRange := by
  -- The date is one of its calendar, and the time one that a day has.
  have held := (calendar.date_spec (dayNumber millis)).1
  have inDay := timeOfDay_inDay millis
  exact
    { month := held.month
      day := ⟨held.day.1, held.day.2.trans (calendar.monthLength_le _ _)⟩
      hour := inDay.hour
      minute := inDay.minute
      second := inDay.second }

/-- Years behind a minus sign that have three digits are filled to three in the Julian calendar. -/
theorem length_yearDigits (calendar : Calendar) (year : Int) :
    if calendar = .julian ∧ -1000 < year ∧ year < 0
    then (Text.paddedNumeral (yearWidth calendar year) year.natAbs).length = 3
    else 4 ≤ (Text.paddedNumeral (yearWidth calendar year) year.natAbs).length := by
  -- A year from -999 to -1 has three digits at most, and fits the narrow width.
  unfold yearWidth
  split_ifs with short negative negative
  · exact Text.length_paddedNumeral (by decide) (by omega)
  · exact absurd ⟨short.1, short.2.2⟩ negative
  · -- A negative year of four digits needs no filling.
    have far : ¬ -1000 < year := fun near => short ⟨negative.1, near, negative.2⟩
    have large : 3 ≤ Nat.log 10 year.natAbs := Nat.le_log_of_pow_le (by decide) (by omega)
    rw [Text.length_paddedNumeral_eq]
    omega
  · rw [Text.length_paddedNumeral_eq]
    omega

/--
The text of an instant before the cutover, or of a timestamp, is ISO 8601 text of its civil date and
its time of day, with a minus sign exactly for negative years. It has four digits of the year, or
more, except for the years from -999 to -1, which have three.
-/
theorem text_standard_unless_short_year [CalendarLibrary] [LawfulCalendarLibrary] {millis : Int}
    (known : millis < gregorianCutover ∨ CalendarLibrary.isTimestamp millis = true) :
    ∃ iso, ofText? (text millis) = some iso ∧ iso.date = civilDate millis ∧
      iso.time = timeOfDay millis ∧ iso.InRange ∧ (iso.date.year < 0 ↔ iso.sign = ['-']) ∧
      if -1000 < iso.date.year ∧ iso.date.year < 0 then iso.yearDigits.length = 3
      else iso.IsStandard := by
  -- The parts of the text are known, so their properties are those of the parts.
  have length := length_yearDigits (calendar millis) (civilDate millis).year
  have signed := yearSign_eq_minus_iff (calendar millis) (civilDate millis).year
  rw [text_eq known]
  refine ⟨_, ofText?_isoText _ _, rfl, rfl, isoText_inRange _ _, signed.symm, ?_⟩
  change if -1000 < (civilDate millis).year ∧ (civilDate millis).year < 0 then _ else _
  split_ifs with short
  · -- A short year is one of the Julian calendar, since the Gregorian one starts in 1582.
    have julian : calendar millis = .julian := by
      by_contra other
      have late : ¬ millis < gregorianCutover := fun early => other (if_pos early)
      exact civilDate_after_cutover millis late (.inl (short.2.trans (by decide)))
    rw [if_pos ⟨julian, short⟩] at length
    exact length
  · rw [if_neg fun held => short held.2] at length
    exact ⟨isoText_inRange _ _, length, signed.mpr⟩

/-- The year 10000 has a sign and five digits. -/
theorem text_standard_ten_thousand :
    (253402300800000 < gregorianCutover ∨
        CalendarLibrary.isTimestamp 253402300800000 = true) ∧
      ∃ iso, ofText? (text 253402300800000) = some iso ∧ iso.date = ⟨10000, 1, 1⟩ ∧
        iso.IsStandard := by
  -- The instant is a timestamp, so the theorem gives the parts of its text.
  have known : 253402300800000 < gregorianCutover ∨
      CalendarLibrary.isTimestamp 253402300800000 = true := .inr (by decide)
  obtain ⟨iso, read, date, -, -, -, standard⟩ := text_standard_unless_short_year known
  have tenThousand : civilDate 253402300800000 = ⟨10000, 1, 1⟩ := by decide
  rw [tenThousand] at date
  rw [date] at standard
  exact ⟨known, iso, read, date, standard⟩

/-- The last instant of the year 2 BC has a year of three digits. -/
theorem text_not_standard_year_minus_one :
    -62167392000001 < gregorianCutover ∧
      text (-62167392000001) = "-001-12-31T23:59:59.999Z".toList ∧
      ¬ ∃ iso, ofText? (text (-62167392000001)) = some iso ∧ iso.IsStandard := by
  -- The text and its parts are computed; its year has only three digits.
  have written : text (-62167392000001) = "-001-12-31T23:59:59.999Z".toList := by
    decide +kernel
  refine ⟨by decide, written, ?_⟩
  rintro ⟨iso, read, standard⟩
  have parts : ofText? (text (-62167392000001)) =
      some ⟨['-'], ['0', '0', '1'], ⟨-1, 12, 31⟩, ⟨23, 59, 59, 999⟩⟩ := by
    rw [written]
    rfl
  rw [read, Option.some.injEq] at parts
  have four := standard.year
  rw [parts] at four
  exact absurd four (by decide)

end Instant

end BsonTable
