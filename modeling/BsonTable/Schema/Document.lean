import BsonTable.Schema.Basic

/-! The document that writes a schema out. -/

namespace BsonTable.Schema

/-- A list of texts as a value. -/
def textList (texts : List String) : Value :=
  .array (texts.map .string)

mutual

/-- The document of a schema; an object schema writes every one of its parts. -/
def toDocument : Schema → Document
  -- A node that says nothing fits anything.
  | any => []
  | scalar name => [("bsonType", .string name.text)]
  | object properties required additional =>
    -- All four keywords are written, even where the default would do.
    [("bsonType", .string TypeName.object.text),
      ("properties", .document (propertyDocuments properties)),
      ("required", textList required),
      ("additionalProperties", .bool additional)]
  | array items =>
    [("bsonType", .string TypeName.array.text), ("items", .document (toDocument items))]
  -- A union is always written as alternatives, even one of bare type names.
  | anyOf branches => [("anyOf", .array (branchDocuments branches))]

/-- The documents of properties under their names. -/
def propertyDocuments : List (String × Schema) → List (String × Value)
  | [] => []
  | (name, schema) :: rest => (name, .document (toDocument schema)) :: propertyDocuments rest

/-- The documents of branches. -/
def branchDocuments : List Schema → List Value
  | [] => []
  | branch :: rest => .document (toDocument branch) :: branchDocuments rest

end

end BsonTable.Schema
