import BsonTable.Reading.Target

/-! Strict and relaxed readings differ in misfits alone, which are failures or zeros. -/

namespace BsonTable

/-- The zero of the host type of a BSON type, null when it has none. -/
def TypeName.hostZero : TypeName → HostValue
  | .int => .int32 0
  | .long => .int64 0
  | .double => .float64 .zero
  | .decimal => .decimal .zero
  | .bool => .bool false
  | _ => .null

/-- The zero of the host type of a column. -/
def ColumnType.hostZero (declared : ColumnType) : HostValue :=
  -- A column of several types has no host type of its own, so there is no zero but null.
  match TypeName.ofText? declared.name with
  | some name => name.hostZero
  | none => .null

/-- The zero of a target, which only for objects depends on the type of the column. -/
def Target.zero (declared : ColumnType) : Target → Reading
  | string => .string none
  | boolean => .boolean false
  | byte => .byte 0
  | short => .short 0
  | int => .int 0
  | long => .long 0
  | float => .float ⟨0⟩
  | double => .double .zero
  | decimal => .decimal .zero
  | bytes | blob | binaryStream | asciiStream => .bytes none
  | timestamp => .timestamp none
  | date => .date none
  | time => .time none
  | object => .object declared.hostZero
  | bson => .bson .null

/-- How a strict and a relaxed reading of a value go together. -/
inductive Lenient {α : Type u} (value : Value) (zero : α) : Except Error α → Except Error α → Prop
  /-- A value that fits reads the same. -/
  | fits (reading : α) : Lenient value zero (.ok reading) (.ok reading)
  /-- A misfit is present, and named when it is refused. -/
  | misfits (present : value.isNullLike = false) (target : String) :
      Lenient value zero (.error (.typeMismatch value.typeName.text target)) (.ok zero)

namespace Lenient

variable {α : Type u} {β : Type v} {value : Value} {zero : α} {strict relaxed : Except Error α}

/-- What is made of both readings goes together too. -/
theorem map (f : α → β) (lenient : Lenient value zero strict relaxed) :
    Lenient value (f zero) (strict.map f) (relaxed.map f) := by
  -- A misfit stays one, whatever is made of the zero.
  cases lenient with
  | fits reading => exact .fits (f reading)
  | misfits present target => exact .misfits present target

/-- A failure may name another target. -/
theorem retarget (target : String) (lenient : Lenient value zero strict relaxed) :
    Lenient value zero (strict.mapError (Error.withTarget target))
      (relaxed.mapError (Error.withTarget target)) := by
  -- Only the name of the target changes, and only in a failure.
  cases lenient with
  | fits reading => exact .fits reading
  | misfits present _ => exact .misfits present target

end Lenient

namespace Value

variable {α : Type}

/-- A misfit is refused in one mode and zero in the other. -/
theorem misfit_lenient {value : Value} (present : value.isNullLike = false) (target : String)
    (zero : α) :
    Lenient value zero (misfit .strict value target zero) (misfit .relaxed value target zero) :=
  .misfits present target

/-- A missing value reads as zero in both modes, and a present one fits or does not. -/
theorem fitOr_lenient (value : Value) (target : String) (zero : α) (reading : Option α) :
    Lenient value zero
      (if value.isNullLike then .ok zero else fitOr .strict value target zero reading)
      (if value.isNullLike then .ok zero else fitOr .relaxed value target zero reading) := by
  cases present : value.isNullLike with
  | true => exact .fits zero
  | false =>
    -- What a present value reads as does not depend on the mode, if it reads as anything.
    cases reading with
    | some reading => exact .fits reading
    | none => exact misfit_lenient present target zero

/-- Only binary data has no text. -/
theorem readText_lenient [Libraries] (value : Value) :
    Lenient value none (value.readText .strict) (value.readText .relaxed) := by
  -- Text is read without the mode but for binary data.
  unfold readText
  split
  · exact misfit_lenient rfl "string" none
  · exact .fits value.text?

/-- Only binary data has bytes. -/
theorem readBytes_lenient (value : Value) :
    Lenient value none (value.readBytes .strict) (value.readBytes .relaxed) := by
  -- Null and undefined have no bytes either, but are let through in both modes.
  cases value with
  | null => exact .fits none
  | undefined => exact .fits none
  | binary _ bytes => exact .fits (some bytes)
  | _ => exact misfit_lenient rfl "bytes" none

/-- A value without truth is refused or false. -/
theorem readBoolean_lenient (value : Value) :
    Lenient value false (value.readBoolean .strict) (value.readBoolean .relaxed) :=
  fitOr_lenient value "boolean" false value.truth?

/-- A value without an integer is refused or zero. -/
theorem readLong_lenient [DecimalLibrary] (value : Value) :
    Lenient value 0 (value.readLong .strict) (value.readLong .relaxed) :=
  fitOr_lenient value "long" 0 value.integer?

/-- A value that is no number is refused or zero. -/
theorem readDouble_lenient (value : Value) :
    Lenient value .zero (value.readDouble .strict) (value.readDouble .relaxed) :=
  fitOr_lenient value "double" .zero value.double?

/-- A value that no fixed point holds is refused or zero. -/
theorem readDecimal_lenient [DecimalLibrary] (value : Value) :
    Lenient value .zero (value.readDecimal .strict) (value.readDecimal .relaxed) :=
  fitOr_lenient value "decimal" .zero value.fixed?

/-- A value that names no instant is refused or missing. -/
theorem readTimestamp_lenient [Libraries] (value : Value) :
    Lenient value none (value.readTimestamp .strict) (value.readTimestamp .relaxed) :=
  fitOr_lenient value "timestamp" none (value.timestamp?.map some)

/-- A narrower integer names its own target. -/
theorem readLowBits_lenient [DecimalLibrary] (value : Value) (target : String) (keep : Int64 → α) :
    Lenient value (keep 0) (value.readLowBits .strict target keep)
      (value.readLowBits .relaxed target keep) :=
  (value.readLong_lenient.map keep).retarget target

/-- Doubles of 32 bits name their own target. -/
theorem readFloat_lenient (value : Value) :
    Lenient value ⟨0⟩ (value.readFloat .strict) (value.readFloat .relaxed) := by
  -- The zero of the wider format rounds to that of the narrower one.
  have rounded : Binary64.zero.toBinary32 = ⟨0⟩ := by decide
  have readings := (value.readDouble_lenient.map Binary64.toBinary32).retarget "float"
  rw [rounded] at readings
  exact readings

/-- Identifiers and bytes both fit a column of binary data. -/
theorem readBinary_lenient (value : Value) :
    Lenient value .null (value.readBinary .strict) (value.readBinary .relaxed) := by
  unfold readBinary
  -- An identifier is told by its subtype and its length, in either mode.
  cases value.uuid? with
  | some id => exact .fits (HostValue.uuid id)
  | none => exact value.readBytes_lenient.map (HostValue.orNull .bytes)

/-- A present value in a column of a BSON type reads as its host type, whose zero is boxed. -/
theorem readPresent_lenient [Libraries] (value : Value) (name : TypeName) :
    Lenient value name.hostZero (value.readPresent .strict name)
      (value.readPresent .relaxed name) := by
  cases name with
  -- Numbers and truth values are boxed.
  | int => exact (value.readLowBits_lenient "int" Int64.toInt32).map HostValue.int32
  | long => exact value.readLong_lenient.map HostValue.int64
  | double => exact value.readDouble_lenient.map HostValue.float64
  | decimal => exact value.readDecimal_lenient.map HostValue.decimal
  | bool => exact value.readBoolean_lenient.map HostValue.bool
  -- What may be missing is null when it is.
  | string => exact value.readText_lenient.map (HostValue.orNull .string)
  | objectId => exact value.readText_lenient.map (HostValue.orNull .string)
  | date => exact value.readTimestamp_lenient.map (HostValue.orNull .timestamp)
  | binData => exact value.readBinary_lenient
  | null => exact .fits HostValue.null
  -- Types without a host type hand the value out as it is.
  | _ => exact .fits (HostValue.bson value)

/-- Objects are read as the host type of their column. -/
theorem readObject_lenient [Libraries] (declared : ColumnType) (value : Value) :
    Lenient value declared.hostZero (value.readObject .strict declared)
      (value.readObject .relaxed declared) := by
  unfold readObject ColumnType.hostZero
  cases value.isNullLike with
  | true => exact .fits HostValue.null
  | false =>
    cases TypeName.ofText? declared.name with
    -- A column of no BSON type hands the value out as it is.
    | none => exact .fits (HostValue.bson value)
    | some name => exact value.readPresent_lenient name

end Value

/-- Whatever a value is read as, the two modes differ in misfits alone. -/
theorem Target.read_lenient [Libraries] (target : Target) (declared : ColumnType) (value : Value) :
    Lenient value (target.zero declared) (target.read .strict declared value)
      (target.read .relaxed declared value) := by
  cases target with
  -- Each target is one of the readings above, wrapped.
  | string => exact value.readText_lenient.map Reading.string
  | boolean => exact value.readBoolean_lenient.map Reading.boolean
  | byte => exact (value.readLowBits_lenient "byte" Int64.toInt8).map Reading.byte
  | short => exact (value.readLowBits_lenient "short" Int64.toInt16).map Reading.short
  | int => exact (value.readLowBits_lenient "int" Int64.toInt32).map Reading.int
  | long => exact value.readLong_lenient.map Reading.long
  | float => exact value.readFloat_lenient.map Reading.float
  | double => exact value.readDouble_lenient.map Reading.double
  | decimal => exact value.readDecimal_lenient.map Reading.decimal
  | bytes => exact value.readBytes_lenient.map Reading.bytes
  | blob => exact value.readBytes_lenient.map Reading.bytes
  | binaryStream => exact value.readBytes_lenient.map Reading.bytes
  -- A stream of characters is made from text, and fails as text does.
  | asciiStream =>
    exact value.readText_lenient.map fun text => Reading.bytes (text.map (·.toUTF8.toList))
  | timestamp => exact value.readTimestamp_lenient.map Reading.timestamp
  -- Dates and times are parts of an instant, and fail under names of their own.
  | date =>
    have dates := value.readTimestamp_lenient.map (·.map Timestamp.date)
    exact (dates.retarget "date").map Reading.date
  | time =>
    have times := value.readTimestamp_lenient.map (·.map Timestamp.timeOfDay)
    exact (times.retarget "time").map Reading.time
  | object => exact (value.readObject_lenient declared).map Reading.object
  | bson => exact .fits (Reading.bson value)

end BsonTable
