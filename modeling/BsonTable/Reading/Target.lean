import BsonTable.Reading.Object

/-! Readings as data: what a value can be read as, and what it was read as. -/

namespace BsonTable

/-- What a value can be read as. -/
inductive Target where
  | string
  | boolean
  | byte
  | short
  | int
  | long
  | float
  | double
  | decimal
  | bytes
  /-- Bytes handed out as one shared block. -/
  | blob
  /-- Bytes handed out as a stream. -/
  | binaryStream
  /-- The bytes of the text, handed out as a stream. -/
  | asciiStream
  | timestamp
  | date
  | time
  | object
  /-- The value as it is stored. -/
  | bson
deriving Repr, DecidableEq

/-- A value that was read as a target. -/
inductive Reading where
  | string (text : Option String)
  | boolean (value : Bool)
  | byte (value : Int8)
  | short (value : Int16)
  | int (value : Int32)
  | long (value : Int64)
  | float (value : Binary32)
  | double (value : Binary64)
  | decimal (value : Fixed96)
  | bytes (content : Option (List UInt8))
  | timestamp (timestamp : Option Timestamp)
  | date (date : Option CalendarDate)
  | time (time : Option TimeOfDay)
  | object (value : HostValue)
  | bson (value : Value)

/-- Read a value of a column that is declared with a type. -/
def Target.read [Libraries] (target : Target) (mode : ConversionMode) (declared : ColumnType)
    (value : Value) : Except Error Reading :=
  match target with
  | string => (value.readText mode).map .string
  | boolean => (value.readBoolean mode).map .boolean
  | byte => (value.readByte mode).map .byte
  | short => (value.readShort mode).map .short
  | int => (value.readInt mode).map .int
  | long => (value.readLong mode).map .long
  | float => (value.readFloat mode).map .float
  | double => (value.readDouble mode).map .double
  | decimal => (value.readDecimal mode).map .decimal
  -- These three differ in how the bytes are handed out, and not in which bytes they are.
  | bytes | blob | binaryStream => (value.readBytes mode).map .bytes
  -- The text is written in bytes only behind the reading, so it misfits where text does.
  | asciiStream => (value.readText mode).map fun text => .bytes (text.map (·.toUTF8.toList))
  | timestamp => (value.readTimestamp mode).map .timestamp
  | date => (value.readDate mode).map .date
  | time => (value.readTime mode).map .time
  -- No other target depends on how the column is declared.
  | object => (value.readObject mode declared).map .object
  -- Nothing can fail where nothing is converted.
  | bson => .ok (.bson value)

end BsonTable
