import BsonTable.Sql.Nullability
import BsonTable.Sql.ColumnType

/-! Columns of a result, and the value that a column has in a document. -/

namespace BsonTable

/-- A column of a result. -/
structure Column where
  /-- The catalog of the column. -/
  database : String
  /-- The datasource of the column, empty for a field that belongs to none. -/
  table : String
  /-- What the datasource goes by in a result. -/
  tableAlias : String
  name : String
  /-- What the column is addressed by. -/
  label : String
  type : ColumnType
  /-- The precision under the strategy that found the column. -/
  precision : Nat
  nullability : Nullability
deriving Repr, DecidableEq

namespace Column

/-- A column that goes by its own name, with the precision of its type and the strategy. -/
def make (database table name : String) (type : ColumnType) (nullability : Nullability)
    (strategy : Strategy) : Column :=
  { database, table, tableAlias := table, name, label := name, type, nullability,
    -- Neither the table nor the column has another name in results of this kind.
    precision := type.precisionFor strategy }

/-- Documents have no level between catalog and datasource. -/
def schemaName (_ : Column) : String :=
  ""

/-- The host type of the objects of the column, empty for the null type. -/
def className (column : Column) : String :=
  column.type.hostClass.getD ""

/-- No column counts up by itself. -/
def isAutoIncrement (_ : Column) : Bool :=
  false

/-- No column holds amounts of money in particular. -/
def isCurrency (_ : Column) : Bool :=
  false

/-- Every column can stand in a condition. -/
def isSearchable (_ : Column) : Bool :=
  true

/-- Results are read only. -/
def isReadOnly (_ : Column) : Bool :=
  true

/-- Results are never written. -/
def isWritable (_ : Column) : Bool :=
  false

/-- Writing never succeeds for certain. -/
def isDefinitelyWritable (_ : Column) : Bool :=
  false

/-- The value of the column inside its datasource. -/
def qualifiedValue? (column : Column) (doc : Document) : Option Value :=
  -- A datasource is a document at the top of the row.
  match Fields.get? column.table doc with
  | some (.document datasource) => Fields.get? column.name datasource
  | _ => none

/-- The value of a column without datasource, which may stand at the top of the document. -/
def unqualifiedValue? (column : Column) (doc : Document) : Option Value :=
  -- Only a column without datasource may stand at the top; otherwise a name would be ambiguous.
  if column.table = "" then Fields.get? column.name doc else none

/-- The value of the column in a document, null where it is absent. -/
def extract (column : Column) (doc : Document) : Value :=
  -- What stands inside the datasource comes first.
  ((column.qualifiedValue? doc).or (column.unqualifiedValue? doc)).getD .null

end Column

end BsonTable
