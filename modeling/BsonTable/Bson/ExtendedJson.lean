import BsonTable.Bson.Value
import BsonTable.Calendar.Instant
import BsonTable.Json.Tree
import BsonTable.Text.Base64
import BsonTable.Text.Hex

/-! Extended JSON: values without a JSON type become objects whose keys start with a dollar. -/

namespace BsonTable

/-- The hexadecimal text of an object identifier. -/
def ObjectId.text (id : ObjectId) : String :=
  -- Two digits for each of the twelve bytes.
  String.ofList (Text.hexEncode id.bytes.toList)

/-- Base64 text of bytes. -/
def base64Text (bytes : List UInt8) : String :=
  String.ofList (Text.base64Encode bytes)

namespace ExtendedJson

/-- An object with one member. -/
def tagged (key : String) (value : Json) : Json :=
  .object [(key, value)]

/-- An object identifier under its key. -/
def objectId (id : ObjectId) : Json :=
  tagged "$oid" (.string id.text)

/-- Binary data with its subtype in two hexadecimal digits. -/
def binary (subtype : UInt8) (bytes : List UInt8) : Json :=
  tagged "$binary" (.object
    [("base64", .string (base64Text bytes)),
      ("subType", .string (String.ofList (Text.hexByte subtype)))])

/-- A regular expression with the given spelling of its options. -/
def regex (pattern options : String) : Json :=
  tagged "$regularExpression" (.object
    [("pattern", .string pattern), ("options", .string options)])

/-- A replication timestamp. -/
def timestamp (time increment : UInt32) : Json :=
  -- Both halves are numbers, since each of them fits any integer.
  tagged "$timestamp" (.object [("t", .int time.toNat), ("i", .int increment.toNat)])

/-- A reference to a document of a collection. -/
def dbPointer (collection : String) (id : ObjectId) : Json :=
  tagged "$dbPointer" (.object [("$ref", .string collection), ("$id", objectId id)])

/-- A decimal by its text. -/
def decimal (value : Decimal128) : Json :=
  tagged "$numberDecimal" (.string (String.ofList value.text))

/-- A date by its milliseconds. -/
def dateMillis (millis : Int64) : Json :=
  -- As text, since a number in JSON need not keep all of the 64 bits.
  tagged "$date" (tagged "$numberLong" (.string (String.ofList (Text.signedNumeral millis.toInt))))

/-- The last instant of the year 9999. -/
def latestReadableDate : Int := 253402300799999

/-- A date as text from 1970 to 9999, and by its milliseconds outside. -/
def readableDate (millis : Int64) : Json :=
  -- Before 1970 text would be readable too, but extended JSON keeps it to these years.
  if 0 ≤ millis.toInt ∧ millis.toInt ≤ latestReadableDate then
    tagged "$date" (.string (String.ofList (Instant.shortestFractionText millis.toInt)))
  else dateMillis millis

/-- A double as a number, or by name where JSON has no number for it. -/
def readableDouble (x : Binary64) : Json :=
  match x.datum with
  -- Not every number of the format is one of JSON.
  | .nan => tagged "$numberDouble" (.string "NaN")
  | .infinite negative =>
    tagged "$numberDouble" (.string (if negative then "-Infinity" else "Infinity"))
  | .finite .. => .double x

/-- A double as a number, or null where JSON has no number for it. -/
def storedDouble (x : Binary64) : Json :=
  match x.datum with
  | .finite .. => .double x
  -- Null takes the place of what cannot be a number.
  | _ => .null

/-- The options of a regular expression in the order of their characters. -/
def sortedOptions (options : String) : String :=
  -- The order of the characters is that of their code points.
  String.ofList (options.toList.mergeSort (· ≤ ·))

mutual

/-- The form used for stored values: bytes of the generic subtype are listed, dates are numbers. -/
def stored : Value → Json
  | .double value => storedDouble value
  | .string text => .string text
  | .document fields => .object (storedFields fields)
  | .array elements => .array (storedElements elements)
  | .binary subtype bytes =>
    -- Bytes without a meaning of their own are serialized as any list of numbers is.
    if subtype = 0 then .array (bytes.map fun byte => .int byte.toNat) else binary subtype bytes
  | .undefined => tagged "$undefined" (.bool true)
  | .objectId id => objectId id
  | .bool value => .bool value
  | .date millis => dateMillis millis
  | .null => .null
  | .regex pattern options => regex pattern options
  | .dbPointer collection id => dbPointer collection id
  | .javascript code => tagged "$code" (.string code)
  | .symbol text => tagged "$symbol" (.string text)
  | .javascriptWithScope code scope =>
    .object [("$code", .string code), ("$scope", .object (storedFields scope))]
  | .int value => .int value.toInt
  | .timestamp time increment => timestamp time increment
  -- No wrapper tells the two integer types apart, so both become the same number.
  | .long value => .int value.toInt
  | .decimal value => decimal value
  | .minKey => tagged "$minKey" (.int 1)
  | .maxKey => tagged "$maxKey" (.int 1)

/-- The stored form of every element. -/
def storedElements : List Value → List Json
  | [] => []
  | element :: rest => stored element :: storedElements rest

/-- The stored form of every field. -/
def storedFields : List (String × Value) → List (String × Json)
  | [] => []
  | (key, value) :: rest => (key, stored value) :: storedFields rest

end

mutual

/-- The relaxed form, which prefers readable text; the scope of code keeps the stored form. -/
def relaxed : Value → Json
  | .double value => readableDouble value
  | .string text => .string text
  | .document fields => .object (relaxedFields fields)
  | .array elements => .array (relaxedElements elements)
  | .binary subtype bytes => binary subtype bytes
  | .undefined => tagged "$undefined" (.bool true)
  | .objectId id => objectId id
  | .bool value => .bool value
  | .date millis => readableDate millis
  | .null => .null
  | .regex pattern options => regex pattern (sortedOptions options)
  | .dbPointer collection id => dbPointer collection id
  | .javascript code => tagged "$code" (.string code)
  | .symbol text => tagged "$symbol" (.string text)
  -- The scope is serialized with the code as a whole, which does not ask for the relaxed form.
  | .javascriptWithScope code scope =>
    .object [("$code", .string code), ("$scope", .object (storedFields scope))]
  | .int value => .int value.toInt
  | .timestamp time increment => timestamp time increment
  -- Here the wrapper is left out as well.
  | .long value => .int value.toInt
  | .decimal value => decimal value
  | .minKey => tagged "$minKey" (.int 1)
  | .maxKey => tagged "$maxKey" (.int 1)

/-- The relaxed form of every element. -/
def relaxedElements : List Value → List Json
  | [] => []
  | element :: rest => relaxed element :: relaxedElements rest

/-- The relaxed form of every field. -/
def relaxedFields : List (String × Value) → List (String × Json)
  | [] => []
  | (key, value) :: rest => (key, relaxed value) :: relaxedFields rest

end

end ExtendedJson

end BsonTable
