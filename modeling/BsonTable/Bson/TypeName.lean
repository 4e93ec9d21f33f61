import BsonTable.Bson.Value
import BsonTable.Error

/-! The names of the BSON types, as schemas spell them. -/

namespace BsonTable

/-- One name for each BSON type. -/
inductive TypeName where
  | double
  | string
  | object
  | array
  | binData
  | undefined
  | objectId
  | bool
  | date
  | null
  | regex
  | dbPointer
  | javascript
  | symbol
  | javascriptWithScope
  | int
  | timestamp
  | long
  | decimal
  | minKey
  | maxKey
deriving Repr, DecidableEq

namespace TypeName

/-- Every type name. -/
def all : List TypeName :=
  -- The order is that of the codes on the wire, with the two keys without a value last.
  [double, string, object, array, binData, undefined, objectId, bool, date, null, regex,
    dbPointer, javascript, symbol, javascriptWithScope, int, timestamp, long, decimal,
    minKey, maxKey]

/-- The spelling of a type name. -/
def text : TypeName → String
  | double => "double"
  | string => "string"
  | object => "object"
  | array => "array"
  | binData => "binData"
  | undefined => "undefined"
  | objectId => "objectId"
  | bool => "bool"
  | date => "date"
  | null => "null"
  | regex => "regex"
  | dbPointer => "dbPointer"
  | javascript => "javascript"
  | symbol => "symbol"
  | javascriptWithScope => "javascriptWithScope"
  | int => "int"
  | timestamp => "timestamp"
  | long => "long"
  | decimal => "decimal"
  | minKey => "minKey"
  | maxKey => "maxKey"

/-- The type with a spelling; spellings are case sensitive. -/
def ofText? (text : String) : Option TypeName :=
  -- No two names are spelled alike, so the first one found is the only one.
  all.find? (·.text == text)

/-- The type with a spelling, or the failure that names it. -/
def parse (text : String) : Except Error TypeName :=
  match ofText? text with
  | some name => .ok name
  | none => .error (.unknownTypeName text)

/-- The names of null and undefined. -/
def isNullLike : TypeName → Bool
  -- A missing type is the same to a column whether it is written as null or left undefined.
  | null | undefined => true
  | _ => false

end TypeName

/-- The type of a value. -/
def Value.typeName : Value → TypeName
  | .double _ => .double
  | .string _ => .string
  | .document _ => .object
  | .array _ => .array
  | .binary _ _ => .binData
  | .undefined => .undefined
  | .objectId _ => .objectId
  | .bool _ => .bool
  | .date _ => .date
  | .null => .null
  | .regex _ _ => .regex
  | .dbPointer _ _ => .dbPointer
  | .javascript _ => .javascript
  | .symbol _ => .symbol
  | .javascriptWithScope _ _ => .javascriptWithScope
  | .int _ => .int
  | .timestamp _ _ => .timestamp
  | .long _ => .long
  | .decimal _ => .decimal
  | .minKey => .minKey
  | .maxKey => .maxKey

end BsonTable
