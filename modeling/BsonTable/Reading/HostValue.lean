import BsonTable.Bson.Text
import BsonTable.Calendar.Timestamp

/-! Values in the types of the program that reads a result. -/

namespace BsonTable

/-- The sixteen bytes of a universally unique identifier. -/
structure Uuid where
  bytes : Vector UInt8 16
deriving Repr, DecidableEq

namespace Uuid

/-- The identifier of sixteen bytes. -/
def ofBytes? (bytes : List UInt8) : Option Uuid :=
  -- The proof of the length goes into the identifier, which cannot be made without it.
  if h : bytes.length = 16 then some ⟨⟨bytes.toArray, by simpa using h⟩⟩ else none

/-- Lower-case hexadecimal text in five groups. -/
def text (id : Uuid) : String :=
  -- The digits are written in one run and cut at fixed places.
  let digits := Text.hexEncode id.bytes.toList
  let group (start length : Nat) := (digits.drop start).take length
  String.ofList (group 0 8 ++ '-' :: group 8 4 ++ '-' :: group 12 4 ++ '-' :: group 16 4 ++
    '-' :: group 20 12)

end Uuid

/-- A value handed to the program that reads a result. -/
inductive HostValue where
  | null
  | bool (value : Bool)
  | int32 (value : Int32)
  | int64 (value : Int64)
  | float64 (value : Binary64)
  | decimal (value : Fixed96)
  | string (text : String)
  | bytes (content : List UInt8)
  | uuid (id : Uuid)
  | timestamp (timestamp : Timestamp)
  /-- A value handed out as it is stored. -/
  | bson (value : Value)

namespace HostValue

/-- A present value in its host type, and null for a missing one. -/
def orNull {α : Type} (wrap : α → HostValue) : Option α → HostValue
  | some value => wrap value
  | none => .null

/-- Whether the value is the missing one. -/
def isNull : HostValue → Bool
  | null => true
  | _ => false

/-- The text of a string. -/
def asString? : HostValue → Option String
  | string text => some text
  | _ => none

/-- The value of an integer. -/
def asInt64? : HostValue → Option Int64
  -- An integer of the narrow type is widened, which changes nothing about it.
  | int32 value => some value.toInt64
  | int64 value => some value
  | _ => none

/-- The value of a number, the nearest double for a wide integer. -/
def asFloat64? : HostValue → Option Binary64
  | float64 value => some value
  -- Wide integers may have more digits than a double, so the nearest one is taken.
  | int32 value => some (.ofInt value.toInt)
  | int64 value => some (.ofInt value.toInt)
  | _ => none

/-- The stored value, when it is handed out as it is. -/
def asBson? : HostValue → Option Value
  | bson value => some value
  | _ => none

/-- The text shown for a value. -/
def displayText [Libraries] : HostValue → String
  -- This is how a table shows that there is nothing, and not the text of a value.
  | null => "NULL"
  | bool value => if value then "true" else "false"
  | int32 value => String.ofList (Text.signedNumeral value.toInt)
  | int64 value => String.ofList (Text.signedNumeral value.toInt)
  | float64 value => value.columnText
  | decimal value => String.ofList value.text
  | string text => text
  -- Bytes are counted rather than shown.
  | bytes content => s!"<{content.length} bytes>"
  | uuid id => id.text
  | timestamp instant => String.ofList (CalendarLibrary.isoText instant.millis)
  -- What is handed out as it is stored is shown as its column would be.
  | bson value => value.displayText

/-- The value in JSON, under the name of its kind. -/
def toJson [Libraries] : HostValue → Json
  -- The one kind without content is a name alone, where all others are an object.
  | null => .string "Null"
  | bool value => .object [("Bool", .bool value)]
  | int32 value => .object [("Int32", .int value.toInt)]
  | int64 value => .object [("Int64", .int value.toInt)]
  -- A double without a number in JSON becomes null, as anywhere in the stored form.
  | float64 value => .object [("Float64", ExtendedJson.storedDouble value)]
  | decimal value => .object [("Decimal", .string (String.ofList value.text))]
  | string text => .object [("String", .string text)]
  | bytes content => .object [("Bytes", .array (content.map fun byte => .int byte.toNat))]
  | uuid id => .object [("Uuid", .string id.text)]
  | timestamp instant =>
    .object [("Timestamp", .string (String.ofList (CalendarLibrary.serialText instant.millis)))]
  | bson value => .object [("Bson", ExtendedJsonLibrary.stored value)]

end HostValue

end BsonTable
