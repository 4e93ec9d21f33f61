import BsonTable.Bson.TypeName
import BsonTable.Sql.Nullability
import BsonTable.Sql.ColumnType

/-! Schemas of BSON values: what they say about types and missing values. -/

namespace BsonTable

/-- A schema; unions of one canonical form have two or more distinct branches and do not nest. -/
inductive Schema where
  /-- Values of any type. -/
  | any
  /-- Values of one type that has no parts. -/
  | scalar (name : TypeName)
  /-- Documents with declared properties, in order, and required names, in ascending order. -/
  | object (properties : List (String × Schema)) (required : List String) (additional : Bool)
  /-- Arrays whose elements share a schema. -/
  | array (items : Schema)
  /-- Values that fit one of the branches. -/
  | anyOf (branches : List Schema)
deriving Repr

/-- The parts of a schema for documents. -/
structure DocumentShape where
  properties : Fields Schema := []
  required : List String := []
  additional : Bool := false
deriving Repr

/-- Add a name to names in ascending order, unless it is one of them. -/
def insertName (name : String) : List String → List String
  | [] => [name]
  | first :: rest =>
    if name < first then name :: first :: rest
    -- A name that is there already is not added again.
    else if name = first then first :: rest
    else first :: insertName name rest

/-- Names in ascending order, each once. -/
def sortedNames (names : List String) : List String :=
  names.foldl (fun sorted name => insertName name sorted) []

namespace DocumentShape

/-- The schema of documents with these parts. -/
def toSchema (shape : DocumentShape) : Schema :=
  .object shape.properties shape.required shape.additional

/-- Whether every document must have a field. -/
def isRequired (shape : DocumentShape) (name : String) : Bool :=
  -- The field must be there, whatever its value is.
  shape.required.contains name

end DocumentShape

namespace Schema

/-- The parts of a schema for documents. -/
def asObject? : Schema → Option DocumentShape
  | object properties required additional => some { properties, required, additional }
  | _ => none

/-- Whether the schema says nothing. -/
def isAny : Schema → Bool
  | any => true
  | _ => false

/-- Whether the schema is a null-like type. -/
def isNullType : Schema → Bool
  -- An object and an array are never null-like.
  | scalar name => name.isNullLike
  | _ => false

/-- Whether a value that fits may be null-like. -/
def admitsNull : Schema → Bool
  | any => true
  -- The branches of a union in canonical form are no unions, so they are asked as types.
  | anyOf branches => branches.any isNullType
  | schema => schema.isNullType

mutual

/-- The entry under which a column is reported: a single type next to null keeps its own. -/
def columnType : Schema → ColumnType
  | any => .polymorphic
  | scalar name => .ofName name
  | object _ _ _ => .ofName .object
  | array _ => .ofName .array
  | anyOf branches =>
    -- Null stands beside a type without changing how the column is reported.
    match concreteTypes branches with
    | [] => .ofName .null
    | [only] => only
    | _ => .polymorphic

/-- The entries of the branches that are no null-like type. -/
def concreteTypes : List Schema → List ColumnType
  | [] => []
  | branch :: rest =>
    -- A union of null-like types alone has no entry left.
    if branch.isNullType then concreteTypes rest else columnType branch :: concreteTypes rest

end

end Schema

/-- What a document schema promises about a field, nothing when the field cannot occur. -/
def DocumentShape.nullability? (shape : DocumentShape) (name : String) : Option Nullability :=
  match Fields.get? name shape.properties with
  -- An undeclared field may still occur, but nothing is known about it.
  | none => if shape.isRequired name || shape.additional then some .unknown else none
  | some schema =>
    if schema.admitsNull || !shape.isRequired name then some .nullable else some .noNulls

end BsonTable
