import BsonTable.Options.Basic
import BsonTable.Fields
import BsonTable.Text.Ascii

/-! Options derived from the properties of a connection. -/

namespace BsonTable

/-- The strategy that suits a SQL dialect, whose name ignores case. -/
def Strategy.ofDialect (dialect : String) : Except Error Strategy :=
  -- The dialect is compared in lower case, and shown so in the failure.
  match Text.asciiLower dialect with
  | "mongosql" => .ok .schemaKnown
  | "mysql" => .ok .rowDerived
  | other =>
    .error (.configuration s!"unknown dialect '{other}', expected 'mongosql' or 'mysql'")

/-- Options from named properties; a missing property keeps its default. -/
def Options.ofProperties (properties : Fields String) : Except Error Options := do
  let defaults : Options := {}
  let mode ← match Fields.get? "conversionMode" properties with
    -- The names of modes are in lower case, which a property need not be.
    | some mode => ConversionMode.parse (Text.asciiLower mode)
    | none => pure defaults.mode
  let strategy ← match Fields.get? "dialect" properties with
    | some dialect => Strategy.ofDialect dialect
    | none => pure defaults.strategy
  -- The database is taken as it is.
  let database := (Fields.get? "database" properties).getD defaults.database
  return { defaults with mode, strategy, database }

end BsonTable
