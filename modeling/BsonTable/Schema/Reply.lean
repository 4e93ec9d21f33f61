import BsonTable.Schema.Parse

/-! The schema of a result, as the reply to a schema request carries it. -/

namespace BsonTable

/-- The schema of a result with the columns that the query asked for. -/
structure ResultSchema where
  version : Option Int := none
  schema : Schema
  /-- The requested columns, each a table and a column name. -/
  selectOrder : Option (List (String × String)) := none

/-- Zero numbers, false and null-like values are falsy. -/
def Value.isTruthy : Value → Bool
  | .bool b => b
  | .int n => n != 0
  | .long n => n != 0
  | .double x => !x.isZero
  | .null | .undefined => false
  -- All other values, texts and decimals among them, count as success.
  | _ => true

namespace ResultSchema

/-- The failure that a reply reports about itself. -/
def reportedFailure (reply : Document) : Error :=
  -- A reason that is no text is not shown.
  match Fields.get? "errmsg" reply with
  | some (.string reason) => .schemaUnavailable reason
  | _ => .schemaUnavailable "server reported failure"

/-- The version of an envelope, if it names one. -/
def versionOf (envelope : Document) : Except Error (Option Int) :=
  match Fields.get? "version" envelope with
  | none => .ok none
  -- Integers of both widths are fine, and doubles are not.
  | some (.int version) => .ok (some version.toInt)
  | some (.long version) => .ok (some version.toInt)
  | some other => Schema.unexpected "schema version must be an integer" other

/-- The schema inside an envelope. -/
def schemaOf (envelope : Document) : Except Error Schema :=
  match Fields.get? "jsonSchema" envelope with
  | some (.document doc) => Schema.ofDocument doc
  | some other => Schema.unexpected "jsonSchema must be a document" other
  | none => Schema.malformed "schema envelope has no jsonSchema"

/-- A requested column: a list of exactly two texts. -/
def selectEntry (entry : Value) : Except Error (String × String) :=
  match entry with
  -- Lists of any other length are refused, not cut.
  | .array [.string table, .string column] => .ok (table, column)
  | other => Schema.unexpected "selectOrder entries must be [table, column] pairs" other

/-- The requested columns of a reply; null asks for none in particular. -/
def selectOrderOf (reply : Document) : Except Error (Option (List (String × String))) :=
  match Fields.get? "selectOrder" reply with
  -- An absent list is the same as null; an empty one asks for no column at all.
  | none | some .null => .ok none
  | some (.array entries) => do return some (← entries.mapM selectEntry)
  | some other => Schema.unexpected "selectOrder must be a list" other

/-- Whether a reply has an `ok` field that denies success. -/
def deniesSuccess (reply : Document) : Bool :=
  match Fields.get? "ok" reply with
  | some ok => !ok.isTruthy
  -- A reply that does not say whether it succeeded is taken at its word.
  | none => false

/-- Read a reply: an envelope when it has a `schema` field, and a bare schema otherwise. -/
def ofDocument (reply : Document) : Except Error ResultSchema :=
  match Fields.get? "schema" reply with
  -- Without the field the reply is taken for a schema, whatever else it says.
  | none => do return { schema := ← Schema.ofDocument reply }
  | some envelope =>
    -- A denial is looked at before anything inside the envelope.
    if deniesSuccess reply then .error (reportedFailure reply)
    else match envelope with
      | .document envelope => do
        -- The parts are read in this order, and the first fault is reported.
        let version ← versionOf envelope
        let schema ← schemaOf envelope
        let selectOrder ← selectOrderOf reply
        return { version, schema, selectOrder }
      | _ => Schema.malformed "schema must be a document"

end ResultSchema

end BsonTable
