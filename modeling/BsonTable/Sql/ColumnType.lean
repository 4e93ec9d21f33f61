import BsonTable.Bson.TypeName
import BsonTable.Options.Basic
import BsonTable.Sql.Type

/-! The relational attributes of each BSON type. -/

namespace BsonTable

/-- How a column of one type is reported. -/
structure ColumnType where
  name : String
  sqlType : SqlType
  displaySize : Nat
  precision : Nat
  scale : Nat
  signed : Bool
  caseSensitive : Bool
  /-- The type of the objects read from the column, absent for the null type. -/
  hostClass : Option String
deriving Repr, DecidableEq

namespace ColumnType

/-- The host type of values that are handed out as they are. -/
def wrapperClass : String := "BsonValue"

/-- The name of the type of columns whose values have several types. -/
def polymorphicName : String := "bson"

/-- A type without a relational counterpart. -/
def foreignEntry (name : String) (caseSensitive : Bool) : ColumnType where
  -- Nothing is known of how wide such a value is, so all sizes are zero.
  name := name
  sqlType := .other
  displaySize := 0
  precision := 0
  scale := 0
  signed := false
  caseSensitive := caseSensitive
  hostClass := some wrapperClass

/-- A type with a relational counterpart, as precise as it is wide. -/
def entry (name : String) (sqlType : SqlType) (size scale : Nat) (signed caseSensitive : Bool)
    (hostClass : Option String) : ColumnType where
  name := name
  sqlType := sqlType
  displaySize := size
  precision := size
  scale := scale
  signed := signed
  caseSensitive := caseSensitive
  hostClass := hostClass

/-- The entry of a type; both integer types report the code of 32-bit integers. -/
def ofName (name : TypeName) : ColumnType :=
  -- Sizes count decimal digits or characters; zero stands where neither is limited.
  match name with
  | .double => entry name.text .double 15 15 true false (some "f64")
  | .string => entry name.text .longVarchar 0 0 false true (some "String")
  | .binData => entry name.text .blob 0 0 false false (some "Vec<u8>")
  | .objectId => entry name.text .longVarchar 24 0 false false (some "String")
  | .bool => entry name.text .bit 1 0 false false (some "bool")
  | .date => entry name.text .timestamp 24 0 false false (some "chrono::DateTime<Utc>")
  | .null => entry name.text .null 0 0 false false none
  -- The wide integer would have a code of its own, which consumers are not given.
  | .int => entry name.text .integer 10 0 true false (some "i32")
  | .long => entry name.text .integer 19 0 true false (some "i64")
  | .decimal => entry name.text .decimal 34 34 true false (some "rust_decimal::Decimal")
  | .regex | .javascript | .symbol | .javascriptWithScope => foreignEntry name.text true
  | .object | .array | .undefined | .dbPointer | .timestamp | .minKey | .maxKey =>
    foreignEntry name.text false

/-- The entry of columns whose values have several types. -/
def polymorphic : ColumnType :=
  -- Apart from its name this is what a foreign type reports, but it counts as signed.
  { foreignEntry polymorphicName false with signed := true }

/-- Every entry, the polymorphic one last. -/
def all : List ColumnType :=
  TypeName.all.map ofName ++ [polymorphic]

/-- The entry with a name. -/
def lookup (name : String) : Except Error ColumnType :=
  -- The name of the polymorphic entry is no type name, so it is not found too early.
  match all.find? (·.name == name) with
  | some info => .ok info
  | none => .error (.unknownTypeName name)

/-- The entry of the type of a value. -/
def ofValue (value : Value) : ColumnType :=
  ofName value.typeName

/-- Whether columns of this entry hold values of several types. -/
def isPolymorphic (info : ColumnType) : Bool :=
  info.name == polymorphicName

/-- The reported precision, which depends on the strategy for decimals only. -/
def precisionFor (info : ColumnType) (strategy : Strategy) : Nat :=
  -- For decimals the table has no single answer.
  if info.sqlType = .decimal then
    match strategy with
    | .schemaKnown => 6145
    | .rowDerived => 11
  else info.precision

end ColumnType

end BsonTable
