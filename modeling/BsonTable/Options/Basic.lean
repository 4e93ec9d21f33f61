import BsonTable.Error
import BsonTable.Json.Printer

/-! The options of a result set, which stay fixed while it is open. -/

namespace BsonTable

/-- What a typed read does with a value of an unfitting type. -/
inductive ConversionMode where
  /-- Fail and name both types. -/
  | strict
  /-- Answer the zero value of the target. -/
  | relaxed
deriving Repr, DecidableEq

namespace ConversionMode

/-- The name of a mode. -/
def name : ConversionMode → String
  | strict => "strict"
  | relaxed => "relaxed"

/-- Whether unfitting values are failures. -/
def isStrict : ConversionMode → Bool
  | strict => true
  | relaxed => false

/-- The mode with a name. -/
def ofName? (name : String) : Option ConversionMode :=
  -- Names are compared as they are, without folding of case.
  [strict, relaxed].find? (·.name == name)

/-- The mode with a name, or the failure that lists the names. -/
def parse (name : String) : Except Error ConversionMode :=
  match ofName? name with
  | some mode => .ok mode
  | none =>
    .error (.configuration
      s!"unknown conversion mode '{name}', expected 'strict' or 'relaxed'")

end ConversionMode

/-- Where the columns of a result come from. -/
inductive Strategy where
  /-- A schema is known before the first row. -/
  | schemaKnown
  /-- Each row shows its own columns. -/
  | rowDerived
deriving Repr, DecidableEq

namespace Strategy

/-- The name of a strategy. -/
def name : Strategy → String
  | schemaKnown => "schema_known"
  | rowDerived => "row_derived"

/-- The strategy with a name. -/
def ofName? (name : String) : Option Strategy :=
  [schemaKnown, rowDerived].find? (·.name == name)

end Strategy

/-- The options of a result set. -/
structure Options where
  mode : ConversionMode := .relaxed
  strategy : Strategy := .schemaKnown
  /-- Order tables and columns by name instead of by declaration. -/
  sorted : Bool := false
  /-- The catalog that every column reports. -/
  database : String := ""
deriving Repr, DecidableEq

namespace Options

/-- The options in JSON, every field written out. -/
def toJson (options : Options) : Json :=
  -- The order of the fields is the one in which they are printed.
  .object
    [("conversion_mode", .string options.mode.name),
      ("metadata_strategy", .string options.strategy.name),
      ("sort_fields_alphabetically", .bool options.sorted),
      ("database", .string options.database)]

end Options

end BsonTable
