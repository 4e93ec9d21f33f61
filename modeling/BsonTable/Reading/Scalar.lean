import BsonTable.Bson.Text
import BsonTable.Bson.TypeName
import BsonTable.Calendar.Timestamp
import BsonTable.Options.Basic

/-! Values read as scalars: null-like values read as zero, and a mode decides about misfits. -/

namespace BsonTable

/-- The fixed-point decimal of a decimal, which is read through its text. -/
def Decimal128.toFixed? [DecimalLibrary] (x : Decimal128) : Option Fixed96 :=
  -- Text with an exponent is left to the second reader, which is asked when the first one fails.
  DecimalLibrary.ofText? x.text <|> DecimalLibrary.ofScientificText? x.text

/-- The integer part of a decimal: exact where fixed point holds it, else that of a double. -/
def Decimal128.toInt64? [DecimalLibrary] (x : Decimal128) : Option Int64 :=
  -- The double is a second try, for numbers beyond the ninety-six bits.
  match x.toFixed? with
  | some fixed => fixed.toInt64?
  | none => if x.toBinary64.isNaN then none else some x.toBinary64.toInt64

namespace Value

/-- What becomes of a value that the target cannot represent. -/
def misfit {α : Type} (mode : ConversionMode) (value : Value) (target : String) (zero : α) :
    Except Error α :=
  -- This is all that the mode decides; what fits is the same in both modes.
  match mode with
  | .strict => .error (.typeMismatch value.typeName.text target)
  | .relaxed => .ok zero

/-- The reading of a present value, which is a misfit when it has none. -/
def fitOr {α : Type} (mode : ConversionMode) (value : Value) (target : String) (zero : α) :
    Option α → Except Error α
  | some reading => .ok reading
  | none => misfit mode value target zero

/-- Every value but binary data reads as its text. -/
def readText [Libraries] (mode : ConversionMode) (value : Value) : Except Error (Option String) :=
  match value with
  | .binary _ _ => misfit mode value "string" none
  -- Null and undefined are no exception, as they have no text and so no failure.
  | _ => .ok value.text?

/-- Strings are true, and numbers and dates are true unless they are zero. -/
def truth? : Value → Option Bool
  | .bool b => some b
  | .string _ => some true
  | .int n => some (n != 0)
  | .long n => some (n != 0)
  | .double x => some !x.isZero
  -- The decimal is looked at as a double, in which a tiny number may vanish.
  | .decimal x => some !x.toBinary64.isZero
  | .date millis => some (millis != 0)
  -- Nested and foreign values are neither true nor false.
  | _ => none

/-- The truth value of a value. -/
def readBoolean (mode : ConversionMode) (value : Value) : Except Error Bool :=
  -- What is absent reads as zero, before any mode is asked.
  if value.isNullLike then .ok false else fitOr mode value "boolean" false value.truth?

/-- Numbers lose their fraction, and doubles stop at the bounds. -/
def integer? [DecimalLibrary] : Value → Option Int64
  | .bool b => some (if b then 1 else 0)
  | .int n => some n.toInt64
  | .long n => some n
  -- A double that is no number becomes zero, as it does where it is cast.
  | .double x => some x.toInt64
  | .date millis => some millis
  | .decimal x => x.toInt64?
  | _ => none

/-- The 64-bit integer of a number. -/
def readLong [DecimalLibrary] (mode : ConversionMode) (value : Value) : Except Error Int64 :=
  if value.isNullLike then .ok 0 else fitOr mode value "long" 0 value.integer?

/-- A narrower integer keeps the low bits of the wide one. -/
def readLowBits [DecimalLibrary] {α : Type} (mode : ConversionMode) (value : Value)
    (target : String) (keep : Int64 → α) : Except Error α :=
  -- The failure is the one of the wide reading, which only names the wrong target so far.
  ((readLong mode value).map keep).mapError (Error.withTarget target)

/-- The low 32 bits of the integer. -/
def readInt [DecimalLibrary] (mode : ConversionMode) (value : Value) : Except Error Int32 :=
  readLowBits mode value "int" Int64.toInt32

/-- The low 16 bits of the integer. -/
def readShort [DecimalLibrary] (mode : ConversionMode) (value : Value) : Except Error Int16 :=
  readLowBits mode value "short" Int64.toInt16

/-- The low 8 bits of the integer. -/
def readByte [DecimalLibrary] (mode : ConversionMode) (value : Value) : Except Error Int8 :=
  readLowBits mode value "byte" Int64.toInt8

/-- The double nearest to a number. -/
def double? : Value → Option Binary64
  | .bool b => some (.ofInt (if b then 1 else 0))
  | .int n => some (.ofInt n.toInt)
  | .long n => some (.ofInt n.toInt)
  | .double x => some x
  | .date millis => some (.ofInt millis.toInt)
  -- The text of a decimal always reads as a double.
  | .decimal x => some x.toBinary64
  | _ => none

/-- The double of a number. -/
def readDouble (mode : ConversionMode) (value : Value) : Except Error Binary64 :=
  if value.isNullLike then .ok .zero else fitOr mode value "double" .zero value.double?

/-- The double, rounded once more to 32 bits. -/
def readFloat (mode : ConversionMode) (value : Value) : Except Error Binary32 :=
  -- The target is renamed as for narrow integers.
  ((readDouble mode value).map Binary64.toBinary32).mapError (Error.withTarget "float")

/-- The fixed-point decimal of a number that has one. -/
def fixed? [DecimalLibrary] : Value → Option Fixed96
  | .bool b => some (if b then .one else .zero)
  -- An integer of any width is a decimal without places.
  | .int n => some (.ofInt64 n.toInt64)
  | .long n => some (.ofInt64 n)
  | .double x => DecimalLibrary.ofBinary64? x
  | .date millis => some (.ofInt64 millis)
  | .decimal x => x.toFixed?
  | _ => none

/-- The fixed-point decimal of a number. -/
def readDecimal [DecimalLibrary] (mode : ConversionMode) (value : Value) : Except Error Fixed96 :=
  if value.isNullLike then .ok .zero else fitOr mode value "decimal" .zero value.fixed?

/-- The bytes of binary data. -/
def readBytes (mode : ConversionMode) (value : Value) : Except Error (Option (List UInt8)) :=
  match value with
  -- An empty content would not be told from none, so absence is kept apart.
  | .null | .undefined => .ok none
  | .binary _ bytes => .ok (some bytes)
  | _ => misfit mode value "bytes" none

/-- Every number but a truth value counts milliseconds. -/
def timestamp? [Libraries] (value : Value) : Option Timestamp :=
  match value with
  | .bool _ => none
  -- Any other number is taken as its integer part.
  | _ => value.integer?.bind fun millis => Timestamp.ofMillis? millis.toInt

/-- The timestamp of a date, or of a number of milliseconds. -/
def readTimestamp [Libraries] (mode : ConversionMode) (value : Value) :
    Except Error (Option Timestamp) :=
  if value.isNullLike then .ok none
  -- With a present value there is a timestamp or a misfit, and never an empty result.
  else fitOr mode value "timestamp" none (value.timestamp?.map some)

/-- The date of the timestamp. -/
def readDate [Libraries] (mode : ConversionMode) (value : Value) :
    Except Error (Option CalendarDate) :=
  ((readTimestamp mode value).map (·.map Timestamp.date)).mapError (Error.withTarget "date")

/-- The time of day of the timestamp. -/
def readTime [Libraries] (mode : ConversionMode) (value : Value) :
    Except Error (Option TimeOfDay) :=
  ((readTimestamp mode value).map (·.map Timestamp.timeOfDay)).mapError (Error.withTarget "time")

end Value

end BsonTable
