import BsonTable.Proofs.Calendar.IsoText
import BsonTable.Reading.Object

/-!
The three readings of a date: as text, as the object of a column of dates, which has a text of its
own, and as a date. The object and the date are Gregorian throughout, while the text is Julian before
the cutover, so that the texts are one exactly where both calendars name the day alike.
-/

namespace BsonTable

/-- Whether a text has a date and a time of day as parts. -/
def IsoText.Tells (text : String) (date : CalendarDate) (time : TimeOfDay) : Prop :=
  ∃ iso, IsoText.ofText? text.toList = some iso ∧ iso.date = date ∧ iso.time = time

namespace Instant

open IsoText hiding text

/-- Texts in both calendars are one exactly when both name the day alike. -/
theorem julianText_eq_gregorianText_iff (millis : Int) :
    julianText millis = gregorianText millis ↔ Calendar.Agree (dayNumber millis) := by
  rw [julianText_eq, gregorianText_eq, ← Calendar.date_eq_iff]
  -- The text determines the date that it is made of, so it is enough to compare dates.
  constructor
  · intro same
    have parts := congrArg ofText? same
    rw [ofText?_isoText, ofText?_isoText, Option.some.injEq] at parts
    exact congrArg IsoText.date parts
  · intro same
    -- Such a day lies in a year of three digits, which both calendars write alike.
    have days := (Calendar.agree_iff _).mp ((Calendar.date_eq_iff _).mp same)
    obtain ⟨held, number⟩ := Calendar.gregorian.date_spec (dayNumber millis)
    have start := held.year_lt_iff 0
    have stop := held.year_lt_iff 10000
    rw [number, Calendar.yearStart] at start stop
    have plain : 0 ≤ (Calendar.gregorian.date (dayNumber millis)).year ∧
        (Calendar.gregorian.date (dayNumber millis)).year < 10000 := by omega
    obtain ⟨sign, width⟩ := plain_year .julian plain
    obtain ⟨sign', width'⟩ := plain_year .gregorian plain
    simp only [isoText, same, sign, width, sign', width']

/-- The text of a timestamp is the library's one from the cutover on and where calendars agree. -/
theorem text_eq_isoText_iff [CalendarLibrary] [LawfulCalendarLibrary] {millis : Int}
    (held : CalendarLibrary.isTimestamp millis = true) :
    text millis = CalendarLibrary.isoText millis ↔
      gregorianCutover ≤ millis ∨ Calendar.Agree (dayNumber millis) := by
  unfold text
  -- Before the cutover the text is the Julian one, and from it on the library's.
  split_ifs with early
  · rw [LawfulCalendarLibrary.isoText_eq held, julianText_eq_gregorianText_iff,
      or_iff_right (not_le.mpr early)]
  · exact iff_of_true rfl (.inl (not_lt.mp early))

end Instant

namespace Value

/-- A timestamp holds the instant that it is made of. -/
theorem isTimestamp_of_ofMillis? [CalendarLibrary] {millis : Int} {timestamp : Timestamp}
    (made : Timestamp.ofMillis? millis = some timestamp) :
    CalendarLibrary.isTimestamp millis = true ∧ timestamp = ⟨millis⟩ := by
  -- There is a timestamp only where the library has one, and it holds the instant.
  unfold Timestamp.ofMillis? at made
  split at made
  · rename_i held
    cases made
    exact ⟨held, rfl⟩
  · cases made

/-- A date is its number of milliseconds, if there is a timestamp for that. -/
theorem readTimestamp_date [Libraries] {millis : Int64} {timestamp : Timestamp}
    (mode : ConversionMode) (made : Timestamp.ofMillis? millis.toInt = some timestamp) :
    readTimestamp mode (.date millis) = .ok (some timestamp) := by
  simp [readTimestamp, isNullLike, timestamp?, integer?, made, fitOr]

/--
The object of a date in a column of dates prints the date that is read as a date. The text that is
read tells the civil date of the same instant, and the same time of day: it is the text of the object
exactly from the cutover on and on the days on which both calendars agree.
-/
theorem readDate_printed_by_object [Libraries] [LawfulCalendarLibrary] {millis : Int64}
    {timestamp : Timestamp} (mode : ConversionMode)
    (made : Timestamp.ofMillis? millis.toInt = some timestamp) :
    timestamp.millis = millis.toInt ∧
      readObject mode (.ofName .date) (.date millis) = .ok (.timestamp timestamp) ∧
      readDate mode (.date millis) = .ok (some timestamp.date) ∧
      IsoText.Tells (HostValue.timestamp timestamp).displayText timestamp.date
        timestamp.timeOfDay ∧
      ∃ text, readText mode (.date millis) = .ok (some text) ∧
        IsoText.Tells text (Instant.civilDate millis.toInt) timestamp.timeOfDay ∧
        (text = (HostValue.timestamp timestamp).displayText ↔
          Instant.gregorianCutover ≤ millis.toInt ∨
            Calendar.Agree (Instant.dayNumber millis.toInt)) := by
  -- The reading is a timestamp of the library, so each part is one of its laws.
  have read := readTimestamp_date mode made
  obtain ⟨held, rfl⟩ := isTimestamp_of_ofMillis? made
  have date := LawfulCalendarLibrary.date_eq held
  have time := LawfulCalendarLibrary.timeOfDay_eq held
  refine ⟨rfl, ?_, by rw [readDate, read]; rfl, ?_, String.ofList (Instant.text millis.toInt), rfl,
    ?_⟩
  · -- The column is one of dates, under the name by which its type is found.
    have name : TypeName.ofText? (ColumnType.ofName .date).name = some .date := by decide
    simp only [readObject, isNullLike, Bool.false_eq_true, if_false, name, readPresent, read]
    rfl
  · -- The printed object is taken apart into the date and the time it is made of.
    rw [IsoText.Tells, HostValue.displayText, String.toList_ofList,
      LawfulCalendarLibrary.isoText_eq held, Instant.gregorianText_eq, Instant.ofText?_isoText]
    exact ⟨_, rfl, date.symm, time.symm⟩
  · rw [IsoText.Tells, HostValue.displayText, String.ofList_inj, String.toList_ofList,
      Instant.text_eq_isoText_iff held, Instant.text_eq (.inr held), Instant.ofText?_isoText]
    exact ⟨⟨_, rfl, rfl, time.symm⟩, Iff.rfl⟩

/-- On the first day on which both calendars agree, the text is that of the object. -/
theorem readDate_printed_alike :
    ∃ timestamp, Timestamp.ofMillis? (-55850688000000 : Int64).toInt = some timestamp ∧
      readDate .strict (.date (-55850688000000)) = .ok (some ⟨200, 3, 1⟩) ∧
      readText .strict (.date (-55850688000000)) =
        .ok (some (HostValue.timestamp timestamp).displayText) := by
  -- The instant is one of the library, and the two calendars agree on its day.
  have made : Timestamp.ofMillis? (-55850688000000 : Int64).toInt = some ⟨-55850688000000⟩ := by
    decide
  obtain ⟨-, -, date, -, text, read, -, same⟩ := readDate_printed_by_object .strict made
  have alike := same.mpr (.inr (by decide))
  exact ⟨_, made, date, alike ▸ read⟩

/-- In the year 564 the Julian text is two days behind the text of the object. -/
theorem readText_not_printed_by_object :
    ∃ timestamp, Timestamp.ofMillis? (-44364244526000 : Int64).toInt = some timestamp ∧
      readObject .strict (.ofName .date) (.date (-44364244526000)) = .ok (.timestamp timestamp) ∧
      (HostValue.timestamp timestamp).displayText = "0564-02-25T22:44:34.000Z" ∧
      readDate .strict (.date (-44364244526000)) = .ok (some ⟨564, 2, 25⟩) ∧
      readText .strict (.date (-44364244526000)) = .ok (some "0564-02-23T22:44:34.000Z") := by
  refine ⟨⟨-44364244526000⟩, by decide, ?_, ?_, ?_, ?_⟩
  · rfl
  · decide +kernel
  · rfl
  · decide +kernel

end Value

end BsonTable
