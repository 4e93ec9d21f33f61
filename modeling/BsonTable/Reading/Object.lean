import BsonTable.Reading.HostValue
import BsonTable.Reading.Scalar
import BsonTable.Sql.ColumnType

/-! Values read as the host type of the column they stand in. -/

namespace BsonTable.Value

/-- The identifier in binary data of one of the two subtypes for identifiers. -/
def uuid? : Value → Option Uuid
  -- Only these two subtypes are identifiers, and then only with sixteen bytes.
  | .binary subtype bytes => if subtype = 3 ∨ subtype = 4 then Uuid.ofBytes? bytes else none
  | _ => none

/-- Binary data as an identifier where it is one, and as bytes elsewhere. -/
def readBinary (mode : ConversionMode) (value : Value) : Except Error HostValue :=
  -- An identifier is recognized in both modes, as nothing is converted for it.
  match value.uuid? with
  | some id => .ok (.uuid id)
  | none => (readBytes mode value).map (HostValue.orNull .bytes)

/-- A present value in a column of a BSON type; types without a host type keep the value. -/
def readPresent [Libraries] (mode : ConversionMode) (value : Value) :
    TypeName → Except Error HostValue
  | .int => (readInt mode value).map .int32
  -- Numbers have no empty form; null is looked for before this is asked.
  | .long => (readLong mode value).map .int64
  | .double => (readDouble mode value).map .float64
  | .decimal => (readDecimal mode value).map .decimal
  | .bool => (readBoolean mode value).map .bool
  | .string | .objectId => (readText mode value).map (HostValue.orNull .string)
  | .date => (readTimestamp mode value).map (HostValue.orNull .timestamp)
  | .binData => readBinary mode value
  -- A present value in a column of the null type is dropped.
  | .null => .ok .null
  | _ => .ok (.bson value)

/-- The host value of a column that is declared with a type; columns of several types keep it. -/
def readObject [Libraries] (mode : ConversionMode) (declared : ColumnType) (value : Value) :
    Except Error HostValue :=
  -- What is absent has no type to misfit.
  if value.isNullLike then .ok .null
  -- The name is looked up again, since only a column of one type has the name of a type.
  else match TypeName.ofText? declared.name with
    | some name => readPresent mode value name
    | none => .ok (.bson value)

end BsonTable.Value
