import BsonTable.Fields
import BsonTable.Number.Binary
import BsonTable.Number.Decimal128

/-! BSON values and the ordered documents that hold them. -/

namespace BsonTable

/-- The twelve bytes of an object identifier. -/
structure ObjectId where
  -- The length is part of the type, so an identifier of any other length cannot be made.
  bytes : Vector UInt8 12
deriving Repr, DecidableEq

/-- A BSON value. -/
inductive Value where
  | double (value : Binary64)
  | string (text : String)
  -- Fields are a list and not a map, as their order is data and a key may come twice.
  | document (fields : List (String × Value))
  | array (elements : List Value)
  | binary (subtype : UInt8) (bytes : List UInt8)
  | undefined
  | objectId (id : ObjectId)
  | bool (value : Bool)
  /-- Milliseconds since 1970 in UTC. -/
  | date (millis : Int64)
  | null
  | regex (pattern options : String)
  | dbPointer (collection : String) (id : ObjectId)
  | javascript (code : String)
  | symbol (text : String)
  | javascriptWithScope (code : String) (scope : List (String × Value))
  | int (value : Int32)
  /-- The internal replication timestamp, which is no date. -/
  | timestamp (time increment : UInt32)
  | long (value : Int64)
  | decimal (value : Decimal128)
  | minKey
  | maxKey
deriving Repr

/-- A document: values by key, in order. -/
abbrev Document := Fields Value

namespace Value

/-- Null and undefined both read as the absence of a value. -/
def isNullLike : Value → Bool
  -- No conversion tells the two apart.
  | null | undefined => true
  | _ => false

/-- Null-like values are null and undefined, and no others. -/
theorem isNullLike_iff (value : Value) :
    value.isNullLike = true ↔ value = .null ∨ value = .undefined := by
  -- Each kind of value is on one side or the other.
  cases value <;> simp [isNullLike]

end Value

end BsonTable
