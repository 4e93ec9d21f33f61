import BsonTable.Bson.OfJson
import BsonTable.Schema.Parse

/-! Schemas read from JSON by way of the document that the JSON stands for. -/

namespace BsonTable

/-- The name of the element that stores a value. -/
def Value.elementName : Value → String
  | .double _ => "Double"
  | .string _ => "String"
  | .document _ => "EmbeddedDocument"
  | .array _ => "Array"
  | .binary _ _ => "Binary"
  | .undefined => "Undefined"
  | .objectId _ => "ObjectId"
  | .bool _ => "Boolean"
  | .date _ => "DateTime"
  | .null => "Null"
  | .regex _ _ => "RegularExpression"
  | .dbPointer _ _ => "DbPointer"
  | .javascript _ => "JavaScriptCode"
  | .symbol _ => "Symbol"
  | .javascriptWithScope _ _ => "JavaScriptCodeWithScope"
  | .int _ => "Int32"
  | .timestamp _ _ => "Timestamp"
  | .long _ => "Int64"
  | .decimal _ => "Decimal128"
  | .minKey => "MinKey"
  | .maxKey => "MaxKey"

namespace Schema

/-- The failure of a tree that stands for no document. -/
def noDocument {α : Type} (reason : String) : Except Error α :=
  malformed s!"schema is not a document: {reason}"

/-- Read a schema from a JSON tree. -/
def ofJson [ExtendedJsonLibrary] (tree : Json) : Except Error Schema :=
  -- The whole tree is converted first, so a fault in a part that no schema reads counts as well.
  match ExtendedJson.ofJson tree with
  | .error reason => noDocument reason
  | .ok (.document doc) => ofDocument doc
  | .ok other =>
    noDocument s!"Could not be serialized to Document, got {other.elementName} instead"

end Schema

end BsonTable
