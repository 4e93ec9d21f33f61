import BsonTable.Proofs.Calendar.IsoText

/-!
From the start of the Julian year 0 to the end of the year 9999, texts of instants have one layout.
They are ordered as the instants are, also across the cutover, and tell the instants that they are
written for.
-/

namespace BsonTable

/-- The instant that an ISO 8601 text tells, in the calendar that its date belongs to. -/
def IsoText.instant? (iso : IsoText) : Option Int :=
  iso.date.calendar?.map fun calendar =>
    Instant.ofDayNumber (calendar.dayNumber iso.date) iso.time

namespace Instant

open IsoText hiding text

/-- The parts of the text of an instant tell that instant. -/
theorem isoText_instant? (millis : Int) :
    (isoText (calendar millis) millis).instant? = some millis := by
  -- The calendar of the date is the one in force, and its day number that of the instant.
  change (civilDate millis).calendar?.map (fun calendar =>
    ofDayNumber (calendar.dayNumber (civilDate millis)) (timeOfDay millis)) = some millis
  rw [calendar?_civilDate, Option.map_some, (civilDate_spec millis).2, ofDayNumber_dayNumber]

/-- The instants of years that have four digits and no sign. -/
structure HasPlainYear (millis : Int) : Prop where
  first : -62167392000000 ≤ millis
  last : millis ≤ 253402300799999

section Layout

variable {millis : Int}

/-- A plain year is not before the year 0 and not after 9999. -/
theorem HasPlainYear.year (plain : HasPlainYear millis) :
    0 ≤ (civilDate millis).year ∧ (civilDate millis).year < 10000 := by
  -- The date is bounded by the starts of two years, one in each calendar.
  obtain ⟨held, number⟩ := civilDate_spec millis
  have first := plain.first
  have last := plain.last
  have start := held.year_lt_iff 0
  have stop := held.year_lt_iff 10000
  have cutover := lt_gregorianCutover_iff millis
  have seam : Calendar.gregorian.dayNumber ⟨1582, 10, 15⟩ = 2299161 := by decide
  rw [number] at start stop
  rw [seam] at cutover
  -- The calendar in force decides on which days the years 0 and 10000 start.
  unfold calendar at start stop
  unfold dayNumber millisPerDay unixEpochDay at start stop cutover
  split_ifs at start stop with early <;> simp only [Calendar.yearStart] at start stop <;> omega

/-- The numbers of an instant, from its year to its milliseconds. -/
def numbers (millis : Int) : List Nat :=
  (civilDate millis).year.toNat :: fields (civilDate millis) (timeOfDay millis)

/-- The slots of a text with a plain year. -/
def plainSlots : List Text.Slot :=
  ⟨4, '-'⟩ :: slots

/-- The numbers of an instant with a plain year fit their slots. -/
theorem HasPlainYear.fitSlots (plain : HasPlainYear millis) :
    Text.FitSlots plainSlots (numbers millis) := by
  -- The year has at most four digits, and the other fields fit as in any text.
  have year := plain.year
  have held := (civilDate_spec millis).1
  have small : (civilDate millis).year.toNat < 10000 := by omega
  exact .cons ⟨by decide, small⟩ (Instant.fitSlots held (timeOfDay_inDay millis))

variable [CalendarLibrary] [LawfulCalendarLibrary]

/-- An instant with a plain year is before the cutover or a timestamp. -/
theorem HasPlainYear.known (plain : HasPlainYear millis) :
    millis < gregorianCutover ∨ CalendarLibrary.isTimestamp millis = true := by
  -- The years that timestamps have are many more than these.
  have last := plain.last
  rw [LawfulCalendarLibrary.isTimestamp_iff]
  unfold earliest latest gregorianCutover
  omega

/-- The text of an instant with a plain year has its numbers in the slots. -/
theorem HasPlainYear.text_eq (plain : HasPlainYear millis) :
    text millis = Text.writeSlots plainSlots (numbers millis) := by
  -- A plain year has no sign, and its digits fill the slot that stands for it.
  have year := plain.year
  obtain ⟨sign, width⟩ := plain_year (calendar millis) year
  have digits : (civilDate millis).year.natAbs = (civilDate millis).year.toNat := by omega
  rw [Instant.text_eq plain.known]
  change yearSign (calendar millis) (civilDate millis).year ++
    Text.paddedNumeral (yearWidth (calendar millis) (civilDate millis).year)
      (civilDate millis).year.natAbs ++
    fieldsText (civilDate millis) (timeOfDay millis) ++ millisText (timeOfDay millis) = _
  rw [sign, width, digits, List.nil_append, List.append_assoc, fieldsText_append_millisText]
  rfl

end Layout

section Order

variable {first second : Int}

/-- Later instants have greater numbers, by their dates or by their times of day. -/
theorem numbers_lt (plain : HasPlainYear first) (plain' : HasPlainYear second)
    (less : first < second) : numbers first < numbers second := by
  unfold numbers fields
  simp only [List.cons_lt_cons_iff]
  rcases lt_iff.mp less with day | ⟨day, time⟩
  · -- The first number that differs is one of the date, none of which is negative.
    have before := civilDate_before day
    have held := (civilDate_spec first).1
    have held' := (civilDate_spec second).1
    have year := plain.year
    have year' := plain'.year
    have month := held.month
    have month' := held'.month
    have inMonth := held.day
    have inMonth' := held'.day
    unfold CalendarDate.Before at before
    omega
  · -- The dates are one, and every number of the time outweighs all that follow it.
    obtain ⟨-, minutes, seconds, millis⟩ := timeOfDay_inDay first
    obtain ⟨-, minutes', seconds', millis'⟩ := timeOfDay_inDay second
    unfold TimeOfDay.millis at time
    rw [civilDate_congr day]
    omega

/-- Texts with plain years are ordered as their instants. -/
theorem text_lt [CalendarLibrary] [LawfulCalendarLibrary] (plain : HasPlainYear first)
    (plain' : HasPlainYear second) (less : first < second) : text first < text second := by
  -- Both texts are slots with numbers, so the numbers decide.
  rw [plain.text_eq, plain'.text_eq]
  exact Text.writeSlots_lt plain.fitSlots plain'.fitSlots (numbers_lt plain plain' less)

end Order

/-- Text of four digits of a year and of fields in range, in ASCII, that tells an instant. -/
structure IsPlainText (cs : List Char) (millis : Int) : Prop where
  length : cs.length = 24
  ascii : ∀ c ∈ cs, c.toNat < 128
  parts : ∃ iso, ofText? cs = some iso ∧ iso.sign = [] ∧ iso.yearDigits.length = 4 ∧
    iso.InRange ∧ iso.instant? = some millis

/-- The text of an instant with a plain year is plain, and tells that instant. -/
theorem HasPlainYear.isPlainText [CalendarLibrary] [LawfulCalendarLibrary] {millis : Int}
    (plain : HasPlainYear millis) : IsPlainText (text millis) millis where
  length := by
    -- The layout is one of fixed width, whatever the numbers are.
    rw [plain.text_eq, Text.length_writeSlots plain.fitSlots]
    rfl
  ascii := by
    intro c inside
    rw [plain.text_eq] at inside
    -- A character is a digit or the mark of a slot, all of which are ASCII.
    rcases Text.mem_writeSlots inside with digit | ⟨slot, among, rfl⟩
    · exact (Char.isDigit_iff_toNat.mp digit).2.trans_lt (by decide)
    · have marks : ∀ slot ∈ plainSlots, slot.mark.toNat < 128 := by decide
      exact marks slot among
  parts := by
    have year := plain.year
    obtain ⟨sign, width⟩ := plain_year (calendar millis) year
    have small : (civilDate millis).year.natAbs < 10000 := by omega
    -- The parts that the text was made of are read back, and they tell the instant.
    refine ⟨isoText (calendar millis) millis, ?_, sign, ?_, isoText_inRange _ _,
      isoText_instant? millis⟩
    · rw [Instant.text_eq plain.known, ofText?_isoText]
    · change (Text.paddedNumeral (yearWidth (calendar millis) (civilDate millis).year) _).length = 4
      rw [width]
      exact Text.length_paddedNumeral (by decide) small

/--
Texts of instants with plain years are plain and tell their instants. They are ordered as the
instants are, and differ if those do, on both sides of the cutover and across it.
-/
theorem text_sorts [CalendarLibrary] [LawfulCalendarLibrary] {first second : Int}
    (plain : HasPlainYear first) (plain' : HasPlainYear second) :
    IsPlainText (text first) first ∧ IsPlainText (text second) second ∧
      (text first < text second ↔ first < second) ∧
      (text first = text second ↔ first = second) := by
  -- Instants are linearly ordered, so the order of the texts goes both ways.
  have sorted : text first < text second ↔ first < second := by
    refine ⟨fun before => ?_, text_lt plain plain'⟩
    rcases lt_trichotomy first second with less | rfl | greater
    · exact less
    · exact absurd before (List.lt_irrefl _)
    · exact absurd (List.lt_trans before (text_lt plain' plain greater)) (List.lt_irrefl _)
  refine ⟨plain.isPlainText, plain'.isPlainText, sorted, fun same => ?_, congrArg text⟩
  rcases lt_trichotomy first second with less | equal | greater
  · exact absurd (text_lt plain plain' less) (same ▸ List.lt_irrefl _)
  · exact equal
  · exact absurd (text_lt plain' plain greater) (same ▸ List.lt_irrefl _)

/-- The last instant of the Julian calendar and the first of the Gregorian one. -/
theorem text_sorts_at_cutover :
    HasPlainYear (gregorianCutover - 1) ∧ HasPlainYear gregorianCutover ∧
      text (gregorianCutover - 1) = "1582-10-04T23:59:59.999Z".toList ∧
      text gregorianCutover = "1582-10-15T00:00:00.000Z".toList ∧
      text (gregorianCutover - 1) < text gregorianCutover := by
  -- Both instants are in the range; the theorem compares their texts.
  have plain : HasPlainYear (gregorianCutover - 1) := ⟨by decide, by decide⟩
  have plain' : HasPlainYear gregorianCutover := ⟨by decide, by decide⟩
  exact ⟨plain, plain', by decide +kernel, by decide +kernel,
    (text_sorts plain plain').2.2.1.mpr (by decide)⟩

end Instant

end BsonTable
