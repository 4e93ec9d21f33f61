import BsonTable.Library.Standard
import BsonTable.Proofs.Reading.Modes
import Mathlib.Logic.Function.Basic

/-!
Objects are of the host type that their column announces, or null: the entries of the types and the
readings of a column agree, whatever value stands in it.
-/

namespace BsonTable

/-- The host values of a host type that may be read from a value. -/
inductive HostForm (value : Value) : String → HostValue → Prop
  | bool (truth : Bool) : HostForm value "bool" (.bool truth)
  | int32 (number : Int32) : HostForm value "i32" (.int32 number)
  | int64 (number : Int64) : HostForm value "i64" (.int64 number)
  | float64 (number : Binary64) : HostForm value "f64" (.float64 number)
  | decimal (number : Fixed96) : HostForm value "rust_decimal::Decimal" (.decimal number)
  | string (text : String) : HostForm value "String" (.string text)
  | timestamp (instant : Timestamp) : HostForm value "chrono::DateTime<Utc>" (.timestamp instant)
  | bytes (content : List UInt8) : HostForm value "Vec<u8>" (.bytes content)
  /-- Sixteen bytes of binary data that is marked as an identifier are handed out as one. -/
  | uuid {subtype : UInt8} {id : Uuid} (stored : value = .binary subtype id.bytes.toList)
      (marked : subtype = 3 ∨ subtype = 4) : HostForm value "Vec<u8>" (.uuid id)
  | bson : HostForm value ColumnType.wrapperClass (.bson value)

/-- Whether a value has nothing to show in a column whose host type may be null. -/
inductive Unfit [Libraries] (value : Value) : TypeName → Prop
  /-- Binary data has no text. -/
  | string (untold : value.typeName = .binData) : Unfit value .string
  | objectId (untold : value.typeName = .binData) : Unfit value .objectId
  /-- Only binary data has bytes. -/
  | binData (untold : value.typeName ≠ .binData) : Unfit value .binData
  /-- A value that is no number of milliseconds, or of too many, is no instant. -/
  | date (untold : value.timestamp? = none) : Unfit value .date

namespace ColumnType

/-- The entries are those of the types and the one for several types. -/
theorem mem_all_iff {entry : ColumnType} :
    entry ∈ all ↔ (∃ name, entry = ofName name) ∨ entry = polymorphic := by
  -- The list is put together from both, and every type is among the names.
  simp only [all, List.mem_append, List.mem_map, List.mem_singleton, eq_comm]
  refine or_congr_left (exists_congr fun name => and_iff_right ?_)
  cases name <;> decide

/-- The entry of a type goes by its spelling, under which the type is found. -/
theorem ofText?_ofName (name : TypeName) : TypeName.ofText? (ofName name).name = some name := by
  cases name <;> rfl

/-- Types do not share an entry. -/
theorem ofName_injective : Function.Injective ofName := by
  intro name name' same
  -- A type is found again by the name of its entry, so the entry tells the types apart.
  have found := congrArg (TypeName.ofText? ·.name) same
  simpa only [ofText?_ofName, Option.some.injEq] using found

/-- Whether what is read from a value is null or of the host type of a column. -/
def Announces (declared : ColumnType) (value : Value) (result : HostValue) : Prop :=
  result = .null ∨ ∃ host, declared.hostClass = some host ∧ HostForm value host result

section Announces

variable {α : Type} {declared : ColumnType} {value : Value} {host : String} {wrap : α → HostValue}

/-- Whatever a reading gives is boxed in the host type of its column. -/
theorem announces_of_map {reading : Except Error α} {result : HostValue}
    (announced : declared.hostClass = some host) (form : ∀ held, HostForm value host (wrap held))
    (read : reading.map wrap = .ok result) : declared.Announces value result := by
  -- A failure is no result, so there is a reading to be boxed.
  cases reading with
  | error error => cases read
  | ok held =>
    cases read
    exact .inr ⟨host, announced, form held⟩

/-- What may be missing is null when it is. -/
theorem announces_of_map_orNull {reading : Except Error (Option α)} {result : HostValue}
    (announced : declared.hostClass = some host) (form : ∀ held, HostForm value host (wrap held))
    (read : reading.map (HostValue.orNull wrap) = .ok result) :
    declared.Announces value result := by
  cases reading with
  | error error => cases read
  | ok held? =>
    cases read
    cases held? with
    | none => exact .inl rfl
    | some held => exact .inr ⟨host, announced, form held⟩

end Announces

end ColumnType

namespace HostValue

variable {α : Type} {wrap : α → HostValue}

/-- What is read is null when it is missing, as no host value that is present is null. -/
theorem eq_null_iff_of_map_orNull {reading : Except Error (Option α)} {result : HostValue}
    (read : reading.map (orNull wrap) = .ok result) (present : ∀ held, wrap held ≠ .null)
    {P : Prop} (missing : ∀ {held?}, reading = .ok held? → (held? = none ↔ P)) :
    result = .null ↔ P := by
  -- The result is the box of what was read, and the box is null exactly when that is missing.
  cases reading with
  | error error => cases read
  | ok held? =>
    cases read
    rw [← missing rfl]
    cases held? with
    | none => exact iff_of_true rfl rfl
    | some held => exact iff_of_false (present held) nofun

end HostValue

namespace Lenient

variable {α : Type u} {value : Value} {zero : α} {strict relaxed : Except Error α}

/-- What a strict reading gives, a relaxed one gives too. -/
theorem relaxed_of_ok (lenient : Lenient value zero strict relaxed) {reading : α}
    (fits : strict = .ok reading) : relaxed = .ok reading := by
  -- A misfit is no success of the strict reading.
  cases lenient with
  | fits held => exact fits
  | misfits present target => cases fits

/-- What a strict reading refuses, a relaxed one gives as zero. -/
theorem relaxed_of_error (lenient : Lenient value zero strict relaxed) {error : Error}
    (refused : strict = .error error) : relaxed = .ok zero := by
  -- Only a misfit is refused, and it comes with its zero.
  cases lenient with
  | fits held => cases refused
  | misfits present target => rfl

end Lenient

namespace Value

section Reading

variable {α β : Type} {mode : ConversionMode} {value : Value}

/-- An object is made of a reading that succeeds. -/
theorem map_eq_ok_iff {reading : Except Error α} {wrap : α → β} {result : β} :
    reading.map wrap = .ok result ↔ ∃ held, reading = .ok held ∧ wrap held = result := by
  cases reading <;> simp [Except.map]

/-- What does not fit is let through in one mode only, as zero. -/
theorem misfit_eq_ok_iff {target : String} {zero result : α} :
    misfit mode value target zero = .ok result ↔ mode = .relaxed ∧ zero = result := by
  cases mode <;> simp [misfit]

/-- Binary data has no text, and every other present value has one. -/
theorem readText_eq_none_iff [Libraries] (present : value.isNullLike = false) {text : Option String}
    (read : value.readText mode = .ok text) :
    text = none ↔ mode = .relaxed ∧ value.typeName = .binData := by
  -- Every present kind but binary data has a text, and binary data has none in any mode.
  cases value with
  | null => cases present
  | undefined => cases present
  | binary =>
    obtain ⟨relaxed, rfl⟩ := misfit_eq_ok_iff.mp read
    exact iff_of_true rfl ⟨relaxed, rfl⟩
  | _ =>
    cases read
    simp [text?, typeName]

/-- Binary data has bytes, and no other present value. -/
theorem readBytes_eq_none_iff (present : value.isNullLike = false) {content : Option (List UInt8)}
    (read : value.readBytes mode = .ok content) :
    content = none ↔ mode = .relaxed ∧ value.typeName ≠ .binData := by
  -- The same case by case, with the roles exchanged.
  cases value with
  | null => cases present
  | undefined => cases present
  | binary =>
    cases read
    exact iff_of_false nofun fun missing => missing.2 rfl
  | _ =>
    obtain ⟨relaxed, rfl⟩ := misfit_eq_ok_iff.mp read
    exact iff_of_true rfl ⟨relaxed, nofun⟩

/-- A present value is missing from a timestamp when it names no instant. -/
theorem readTimestamp_eq_none_iff [Libraries] (present : value.isNullLike = false)
    {instant : Option Timestamp} (read : value.readTimestamp mode = .ok instant) :
    instant = none ↔ mode = .relaxed ∧ value.timestamp? = none := by
  -- A present value has a timestamp, or is a misfit that only one mode lets through.
  unfold readTimestamp at read
  rw [present, if_neg Bool.false_ne_true] at read
  cases named : value.timestamp? with
  | some held =>
    rw [named] at read
    cases read
    exact iff_of_false nofun fun missing => nomatch missing.2
  | none =>
    rw [named] at read
    obtain ⟨relaxed, rfl⟩ := misfit_eq_ok_iff.mp read
    exact iff_of_true rfl ⟨relaxed, rfl⟩

/-- An identifier is stored as marked binary data. -/
theorem uuid?_eq_some {id : Uuid} (found : value.uuid? = some id) :
    ∃ subtype, value = .binary subtype id.bytes.toList ∧ (subtype = 3 ∨ subtype = 4) := by
  -- Each test that the identifier has passed is one of the facts about it.
  unfold uuid? at found
  split at found
  · split at found
    · rename_i subtype bytes marked
      unfold Uuid.ofBytes? at found
      split at found
      · cases found
        exact ⟨subtype, rfl, marked⟩
      · cases found
    · cases found
  · cases found

/-- A present value in a column of a type reads as what the entry of the type announces. -/
theorem readPresent_announced [Libraries] {name : TypeName} {result : HostValue}
    (read : value.readPresent mode name = .ok result) :
    (ColumnType.ofName name).Announces value result := by
  -- Types with a host type read through a box, which is the one that their entry names.
  cases name with
  | int => exact ColumnType.announces_of_map rfl .int32 read
  | long => exact ColumnType.announces_of_map rfl .int64 read
  | double => exact ColumnType.announces_of_map rfl .float64 read
  | decimal => exact ColumnType.announces_of_map rfl .decimal read
  | bool => exact ColumnType.announces_of_map rfl .bool read
  | string => exact ColumnType.announces_of_map_orNull rfl .string read
  | objectId => exact ColumnType.announces_of_map_orNull rfl .string read
  | date => exact ColumnType.announces_of_map_orNull rfl .timestamp read
  | binData =>
    change value.readBinary mode = _ at read
    unfold readBinary at read
    split at read
    · rename_i id found
      cases read
      obtain ⟨subtype, stored, marked⟩ := uuid?_eq_some found
      exact .inr ⟨_, rfl, .uuid stored marked⟩
    · exact ColumnType.announces_of_map_orNull rfl .bytes read
  | null =>
    cases read
    exact .inl rfl
  -- Types without a host type hand the value out as it is.
  | _ =>
    cases read
    exact .inr ⟨_, rfl, .bson⟩

/-- A present value reads as null when there is nothing to show and the mode lets it through. -/
theorem readPresent_eq_null_iff [Libraries] {name : TypeName} {result : HostValue}
    (present : value.isNullLike = false) (read : value.readPresent mode name = .ok result) :
    result = .null ↔ name = .null ∨ mode = .relaxed ∧ Unfit value name := by
  -- Only types whose host type may be missing can be unfit.
  cases name with
  | string =>
    rw [or_iff_right (by decide),
      HostValue.eq_null_iff_of_map_orNull read (fun _ => nofun) (readText_eq_none_iff present)]
    exact and_congr_right fun _ => ⟨.string, fun | .string untold => untold⟩
  | objectId =>
    rw [or_iff_right (by decide),
      HostValue.eq_null_iff_of_map_orNull read (fun _ => nofun) (readText_eq_none_iff present)]
    exact and_congr_right fun _ => ⟨.objectId, fun | .objectId untold => untold⟩
  | date =>
    rw [or_iff_right (by decide),
      HostValue.eq_null_iff_of_map_orNull read (fun _ => nofun) (readTimestamp_eq_none_iff present)]
    exact and_congr_right fun _ => ⟨.date, fun | .date untold => untold⟩
  | binData =>
    rw [or_iff_right (by decide)]
    change value.readBinary mode = _ at read
    unfold readBinary at read
    split at read
    · rename_i id found
      cases read
      obtain ⟨subtype, rfl, _⟩ := uuid?_eq_some found
      exact iff_of_false nofun fun | ⟨_, .binData untold⟩ => untold rfl
    · rw [HostValue.eq_null_iff_of_map_orNull read (fun _ => nofun) (readBytes_eq_none_iff present)]
      exact and_congr_right fun _ => ⟨.binData, fun | .binData untold => untold⟩
  | null =>
    cases read
    exact iff_of_true rfl (.inl rfl)
  -- Any other host value is present, and no value is unfit for it.
  | int | long | double | decimal | bool =>
    obtain ⟨_, _, rfl⟩ := map_eq_ok_iff.mp read
    exact iff_of_false nofun fun | .inr ⟨_, unfit⟩ => nomatch unfit
  | _ =>
    cases read
    exact iff_of_false nofun fun | .inr ⟨_, unfit⟩ => nomatch unfit

/-- What is handed out as it is stored is the value itself. -/
theorem readPresent_eq_bson [Libraries] {name : TypeName} {stored : Value}
    (read : value.readPresent mode name = .ok (.bson stored)) : stored = value := by
  -- Among the host forms only the one for values as they are holds such a value.
  obtain missing | ⟨host, _, form⟩ := readPresent_announced read
  · cases missing
  · cases form
    rfl

/-- A value is unfit for a host type that may be null when a strict reading refuses it. -/
theorem unfit_iff_refused [Libraries] {name : TypeName} (present : value.isNullLike = false)
    (nullable : name ∈ [TypeName.string, .objectId, .binData, .date]) :
    Unfit value name ↔ ∃ error, value.readPresent .strict name = .error error := by
  -- The two readings are compared with the help of what each says about null.
  have named : name ≠ .null := by
    rintro rfl
    exact absurd nullable (by decide)
  have strictly {result : HostValue} (read : value.readPresent .strict name = .ok result) :
      result ≠ .null := by
    rw [Ne, readPresent_eq_null_iff present read]
    exact not_or.mpr ⟨named, fun lax => nomatch lax.1⟩
  have laxly {result : HostValue} (read : value.readPresent .relaxed name = .ok result) :
      result = .null ↔ Unfit value name := by
    rw [readPresent_eq_null_iff present read, or_iff_right named]
    exact and_iff_right rfl
  have lenient := value.readPresent_lenient name
  constructor
  · intro unfit
    cases strict : value.readPresent .strict name with
    | ok result =>
      exact absurd ((laxly (lenient.relaxed_of_ok strict)).mpr unfit) (strictly strict)
    | error error => exact ⟨error, rfl⟩
  · rintro ⟨error, refused⟩
    refine (laxly (lenient.relaxed_of_error refused)).mp ?_
    -- The zero of each of these types is null.
    simp only [List.mem_cons, List.not_mem_nil, or_false] at nullable
    rcases nullable with rfl | rfl | rfl | rfl <;> rfl

/-- Read with leniency, a value gives its text, if it has one. -/
theorem readText_relaxed [Libraries] (value : Value) :
    value.readText .relaxed = .ok value.text? := by
  cases value <;> rfl

/-- A present value in a column of a type is read as the type says. -/
theorem readObject_ofName [Libraries] (present : value.isNullLike = false) (name : TypeName) :
    value.readObject mode (.ofName name) = value.readPresent mode name := by
  -- The value is present, and the name of the entry leads back to the type.
  unfold readObject
  rw [present, if_neg Bool.false_ne_true, ColumnType.ofText?_ofName]

/-- A present value in a column of several types is handed out as it is. -/
theorem readObject_polymorphic [Libraries] (present : value.isNullLike = false) :
    value.readObject mode .polymorphic = .ok (.bson value) := by
  -- The entry for several types has no name of a type.
  unfold readObject
  rw [present, if_neg Bool.false_ne_true]
  rfl

end Reading

/--
Whatever is read as an object is null or of the host type that its column announces.

It is null when the value is null-like or stands in a column of the null type, and elsewhere only if
a misfit is let through and its host type may be missing. What is handed out as it is stored is the
value itself, and its text is the one that the value is read as.
-/
theorem objects_are_as_announced [Libraries] (declared : ColumnType)
    (known : declared ∈ ColumnType.all) (mode : ConversionMode) (value : Value) (result : HostValue)
    (read : value.readObject mode declared = .ok result) :
    declared.Announces value result ∧
      (result = .null ↔ value.isNullLike = true ∨ declared = .ofName .null ∨
        mode = .relaxed ∧ ∃ name, declared = .ofName name ∧ Unfit value name) ∧
      ∀ stored, result = .bson stored →
        stored = value ∧ value.readText .relaxed = .ok stored.text? := by
  -- What is handed out is the value, so its text is the value's own.
  have handed {stored : Value} (same : stored = value) :
      stored = value ∧ value.readText .relaxed = .ok stored.text? :=
    ⟨same, same ▸ readText_relaxed value⟩
  cases present : value.isNullLike with
  | true =>
    -- What is null-like is null in every column, whatever its type.
    unfold readObject at read
    rw [present, if_pos rfl] at read
    cases read
    exact ⟨.inl rfl, iff_of_true rfl (.inl rfl), nofun⟩
  | false =>
    -- A present value is up to the column, which is one of a type or the one for several.
    rw [or_iff_right Bool.false_ne_true]
    rcases ColumnType.mem_all_iff.mp known with ⟨name, rfl⟩ | rfl
    · rw [readObject_ofName present] at read
      refine ⟨readPresent_announced read, ?_, ?_⟩
      · simp only [readPresent_eq_null_iff present read, ColumnType.ofName_injective.eq_iff,
          exists_eq_left']
      · rintro stored rfl
        exact handed (readPresent_eq_bson read)
    · rw [readObject_polymorphic present] at read
      cases read
      -- The entry for several types is none of those of a type.
      have other (name : TypeName) : ColumnType.polymorphic ≠ .ofName name := by
        cases name <;> decide
      refine ⟨.inr ⟨_, rfl, .bson⟩, iff_of_false nofun ?_, ?_⟩
      · rintro (same | ⟨_, name, same, _⟩)
        · exact other _ same
        · exact other _ same
      · rintro stored ⟨⟩
        exact handed rfl

/-- An identifier is one in a column of binary data, and nothing at all in a column of dates. -/
theorem identifier_is_as_announced :
    let value : Value := .binary 4 (List.replicate 16 0)
    (∃ id, value.readObject .strict (.ofName .binData) = .ok (.uuid id) ∧
      HostForm value "Vec<u8>" (.uuid id)) ∧
    value.readObject .relaxed (.ofName .date) = .ok .null ∧ Unfit value .date := by
  intro value
  constructor
  · -- The reading is computed, and the theorem says which host form it has.
    have read : value.readObject .strict (.ofName .binData) =
        .ok (.uuid ⟨⟨Array.replicate 16 0, rfl⟩⟩) := rfl
    obtain ⟨announced, _⟩ := objects_are_as_announced _ (by decide) _ _ _ read
    obtain missing | ⟨host, announced, form⟩ := announced
    · cases missing
    · cases announced
      exact ⟨_, read, form⟩
  · have read : value.readObject .relaxed (.ofName .date) = .ok .null := rfl
    obtain ⟨_, null, _⟩ := objects_are_as_announced _ (by decide) _ _ _ read
    obtain missing | untyped | ⟨_, name, same, unfit⟩ := null.mp rfl
    · cases missing
    · exact absurd untyped (by decide)
    · cases ColumnType.ofName_injective same
      exact ⟨read, unfit⟩

end Value

end BsonTable
