/-! The ways in which opening, describing or reading a tabular result can fail. -/

namespace BsonTable

/-- A failure, named for its cause. -/
inductive Error where
  /-- A schema document does not describe a schema. -/
  | schemaFormat (reason : String)
  /-- No BSON type has this name. -/
  | unknownTypeName (name : String)
  /-- No column carries this label. -/
  | columnNotFound (label : String)
  /-- A one-based column index lies outside the result. -/
  | columnIndexOutOfRange (index count : Nat)
  /-- A value of one BSON type has no reading as the requested type. -/
  | typeMismatch (source target : String)
  /-- The result set was used after it was closed. -/
  | resultSetClosed
  /-- A value was read while no row is current. -/
  | noCurrentRow
  /-- The schema of the result could not be obtained. -/
  | schemaUnavailable (reason : String)
  /-- The cursor that feeds the result failed. -/
  | cursor (reason : String)
  /-- An option has no meaning. -/
  | configuration (reason : String)
  /-- Any other failure, described by its own text. -/
  | other (reason : String)
deriving Repr, DecidableEq

namespace Error

/-- The text shown to a reader. -/
def message : Error → String
  -- The labels are part of the messages, which tests and logs may compare.
  | schemaFormat reason => "Schema format error: " ++ reason
  | unknownTypeName name => "Invalid BSON type name: " ++ name
  | columnNotFound label => "Column not found: " ++ label
  | columnIndexOutOfRange index count =>
    s!"Invalid column index {index}: result has {count} column(s)"
  | typeMismatch source target => s!"Cannot convert BSON type {source} to {target}"
  | resultSetClosed => "Result set is closed"
  | noCurrentRow => "No current row"
  | schemaUnavailable reason => "Result schema unavailable: " ++ reason
  | cursor reason => "Cursor error: " ++ reason
  | configuration reason => "Configuration error: " ++ reason
  | other reason => reason

/-- Lifecycle errors come from using a result set at the wrong time. -/
def isLifecycle : Error → Bool
  | resultSetClosed | noCurrentRow => true
  | _ => false

/-- Caller errors come from a column reference that names nothing. -/
def isCaller : Error → Bool
  | columnNotFound _ | columnIndexOutOfRange _ _ => true
  | _ => false

/-- A mismatch keeps its source type and names the target that was asked for. -/
def withTarget (target : String) : Error → Error
  -- The name of the first target may be that of a helper, which a caller did not ask for.
  | typeMismatch source _ => typeMismatch source target
  | failure => failure

end Error

end BsonTable
