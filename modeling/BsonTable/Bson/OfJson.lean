import BsonTable.Calendar.Rfc3339
import BsonTable.Library.Basic
import BsonTable.Number.DecimalLiteral
import BsonTable.Number.Literal
import BsonTable.Text.Base64
import BsonTable.Text.Hex

/-! Values of JSON trees, in which objects of extended form stand for the values they describe. -/

namespace BsonTable

/-- The object identifier of twenty-four hexadecimal digits. -/
def ObjectId.ofText? (text : String) : Option ObjectId := do
  -- Decoding takes any number of whole bytes, so that their number is checked behind it.
  let bytes ← Text.hexDecode? text.toList
  if h : bytes.length = 12 then return ⟨⟨bytes.toArray, by simpa using h⟩⟩ else none

namespace ExtendedJson

/-- A 32-bit integer in decimal. -/
def readInt32? (text : String) : Option Int32 := do
  let value ← Text.readInteger? text.toList
  guard (-(Nat.pow 2 31 : Int) ≤ value ∧ value < Nat.pow 2 31)
  return Int32.ofInt value

/-- A 64-bit integer in decimal. -/
def readInt64? (text : String) : Option Int64 := do
  let value ← Text.readInteger? text.toList
  guard (-(Nat.pow 2 63 : Int) ≤ value ∧ value < Nat.pow 2 63)
  return Int64.ofInt value

/-- The byte of two hexadecimal digits. -/
def readByte? (text : String) : Option UInt8 := do
  -- More digits are more bytes, and none is no byte at all.
  match ← Text.hexDecode? text.toList with
  | [byte] => return byte
  | _ => none

/-- Binary data from base64 text, or from generic bytes, with a subtype. -/
def readBinary? (fields : Document) : Option Value :=
  -- The text form is asked first. Without text there may still be the bytes themselves.
  match Fields.get? "base64" fields with
  | some (.string text) => do
    let bytes ← Text.base64Decode? text.toList
    match Fields.get? "subType" fields with
    | some (.string subtype) => return .binary (← readByte? subtype) bytes
    | _ => none
  | _ =>
    match Fields.get? "bytes" fields, Fields.get? "subType" fields with
    | some (.binary 0 bytes), some (.int subtype) =>
      if 0 ≤ subtype.toInt ∧ subtype.toInt < 256 then
        some (.binary (UInt8.ofNat subtype.toInt.toNat) bytes)
      else none
    | _, _ => none

/-- A replication timestamp from two integers of one width; narrow ones wrap. -/
def readTimestamp? (fields : Document) : Option Value :=
  match Fields.get? "t" fields, Fields.get? "i" fields with
  | some (.int time), some (.int increment) =>
    -- A negative number is taken bit by bit, as a cast between widths does.
    some (.timestamp time.toUInt32 increment.toUInt32)
  | some (.long time), some (.long increment) =>
    -- Wide ones are checked instead, and no bit of them is dropped.
    if 0 ≤ time.toInt ∧ time.toInt < Nat.pow 2 32 ∧
        0 ≤ increment.toInt ∧ increment.toInt < Nat.pow 2 32 then
      some (.timestamp (UInt32.ofNat time.toInt.toNat) (UInt32.ofNat increment.toInt.toNat))
    else none
  | _, _ => none

/-- A regular expression with its options in order. -/
def readRegex? (fields : Document) : Option Value :=
  match Fields.get? "pattern" fields, Fields.get? "options" fields with
  | some (.string pattern), some (.string options) =>
    -- The order of the options carries no meaning, so they are brought into one order.
    some (.regex pattern (String.ofList (options.toList.mergeSort (· ≤ ·))))
  | _, _ => none

/-- A reference to a document of a collection. -/
def readDbPointer? (fields : Document) : Option Value :=
  match Fields.get? "$ref" fields, Fields.get? "$id" fields with
  | some (.string collection), some (.objectId id) => some (.dbPointer collection id)
  | _, _ => none

/-- Milliseconds within 64 bits, the nearest ones if there are none. -/
def dateOfMillis (millis : Int) : Value :=
  .date (Binary64.clampToInt64 millis)

/-- The value that a document of extended form describes. -/
def ofFields? (doc : Document) : Option Value :=
  -- A single member decides by its key and the kind of its value, which must both be right.
  match doc with
  | [("$oid", .string text)] => (ObjectId.ofText? text).map .objectId
  | [("$symbol", .string text)] => some (.symbol text)
  | [("$numberInt", .string text)] => (readInt32? text).map .int
  | [("$numberLong", .string text)] => (readInt64? text).map .long
  | [("$numberDouble", .string text)] => (Binary64.ofLiteral? text).map .double
  | [("$numberDecimal", .string text)] => (Decimal128.ofText? text).map .decimal
  | [("$numberDecimalBytes", .binary 0 bytes)] =>
    if bytes.length = 16 then
      -- The bytes are stored with the least significant one first.
      some (.decimal ⟨BitVec.ofNat 128 (bytes.foldr (fun byte rest => 256 * rest + byte.toNat) 0)⟩)
    else none
  | [("$binary", .document fields)] => readBinary? fields
  | [("$code", .string code)] => some (.javascript code)
  | [("$code", .string code), ("$scope", .document scope)]
  -- The two members of code with a scope may come in either order.
  | [("$scope", .document scope), ("$code", .string code)] =>
    some (.javascriptWithScope code scope)
  | [("$timestamp", .document fields)] => readTimestamp? fields
  | [("$regularExpression", .document fields)] => readRegex? fields
  | [("$dbPointer", .document fields)] => readDbPointer? fields
  | [("$date", .long millis)] => some (.date millis)
  | [("$date", .string text)] => (Instant.ofRfc3339? text).map dateOfMillis
  | [("$minKey", .int 1)] | [("$minKey", .long 1)] => some .minKey
  | [("$maxKey", .int 1)] | [("$maxKey", .long 1)] => some .maxKey
  | [("$undefined", .bool true)] => some .undefined
  -- Any other document describes nothing, also one that has a member too many.
  | _ => none

/-- The value of a document: what its extended form describes, or the document itself. -/
def ofFields [ExtendedJsonLibrary] (doc : Document) : Value :=
  -- The document stays what it is, rather than being refused.
  (ExtendedJsonLibrary.described? doc).getD (.document doc)

/-- The failure of an integer that no BSON type can hold. -/
def beyondInt64 (value : Int) : String :=
  "BSON does not support unsigned integers.\n                 An attempt to serialize the value: "
    ++ s!"{value} in a signed type failed due to the value's size."

variable [ExtendedJsonLibrary]

mutual

/-- The value of a tree, whose integers must fit into 64 bits with a sign. -/
def ofJson : Json → Except String Value
  | .null => .ok .null
  | .bool value => .ok (.bool value)
  | .int value =>
    -- Integers below the range do not occur, as a reader of JSON makes doubles of them.
    if value < Nat.pow 2 63 then .ok (.long (Int64.ofInt value)) else .error (beyondInt64 value)
  | .double value => .ok (.double value)
  | .string text => .ok (.string text)
  | .array elements => (ofElements elements).map .array
  -- The members become values first, and only then may they describe one.
  | .object members => (ofMembers members).map ofFields

/-- The value of each element. -/
def ofElements : List Json → Except String (List Value)
  | [] => .ok []
  | element :: rest => do return (← ofJson element) :: (← ofElements rest)

/-- The value of each member under its key. -/
def ofMembers : List (String × Json) → Except String (List (String × Value))
  | [] => .ok []
  | (key, value) :: rest => do return (key, ← ofJson value) :: (← ofMembers rest)

end

end ExtendedJson

end BsonTable
