import BsonTable.Table.Header
import BsonTable.Options.Basic
import BsonTable.Schema.Reply

/-! Where columns come from: a known schema, or the row itself. -/

namespace BsonTable

/-- A source of columns, which may keep a state of its own and may fail. -/
class HeaderProvider (π : Type u) where
  /-- Which kind of source it is, which never changes. -/
  strategy : π → Strategy
  /-- The columns of a row, or of the result as a whole when no row is at hand. -/
  describe : Option Document → π → Except Error Header × π

/-- The two sources of columns that need nothing but data. -/
inductive HeaderSource where
  /-- The same columns for every row. -/
  | schema (header : Header)
  /-- The fields of each row, or of a placeholder for a result without rows. -/
  | rows (database : String) (placeholder : Option Document)

namespace HeaderSource

/-- The datasources of a schema with their own schemas. -/
def tables (schema : ResultSchema) : Except Error (Fields DocumentShape) :=
  match schema.schema.asObject? with
  | none => Schema.malformed "result schema must be an object"
  -- Datasources are read in the order in which they are declared.
  | some top => top.properties.mapM fun (table, tableSchema) =>
    match tableSchema.asObject? with
    | some shape => .ok (table, shape)
    | none => Schema.malformed s!"datasource '{table}' must be an object"

/-- A declared column, by its table and its name. -/
abbrev ColumnKey := String × String

/-- The declared columns, table by table. -/
def declared (tables : Fields DocumentShape) : List ColumnKey :=
  -- The same name may be declared in two datasources, which the key tells apart.
  tables.flatMap fun (table, shape) => (Fields.keys shape.properties).map (table, ·)

/-- The order of tables first and of names inside a table. -/
def keyLe (left right : ColumnKey) : Bool :=
  left.1 < right.1 || (left.1 == right.1 && left.2 ≤ right.2)

/-- A requested column, provided that it is declared. -/
def checkDeclared (keys : List ColumnKey) (key : ColumnKey) : Except Error ColumnKey :=
  if keys.contains key then .ok key
  else Schema.malformed s!"selectOrder names unknown column '{key.1}.{key.2}'"

/-- The columns of a result: the requested ones, else all of them, sorted or as declared. -/
def arrange (schema : ResultSchema) (options : Options) (keys : List ColumnKey) :
    Except Error (List ColumnKey) :=
  match schema.selectOrder with
  -- The order of a request wins over sorting.
  | some order => order.mapM (checkDeclared keys)
  | none => .ok (if options.sorted then keys.mergeSort keyLe else keys)

/-- The column of a declared key. -/
def column? (tables : Fields DocumentShape) (options : Options) (key : ColumnKey) :
    Option Column := do
  let shape ← Fields.get? key.1 tables
  let schema ← Fields.get? key.2 shape.properties
  -- Nothing is promised of what is neither declared nor allowed, which is reported as nullable.
  let nullability := (shape.nullability? key.2).getD .nullable
  return .make options.database key.1 key.2 schema.columnType nullability .schemaKnown

/-- The columns of a result schema, which nests columns inside tables. -/
def ofSchema (schema : ResultSchema) (options : Options) : Except Error HeaderSource := do
  let tables ← tables schema
  -- Every arranged key is declared, so none is lost in the filter.
  let keys ← arrange schema options (declared tables)
  return .schema ⟨keys.filterMap (column? tables options)⟩

/-- The columns of each row, without a placeholder. -/
def ofRows (options : Options) : HeaderSource :=
  .rows options.database none

/-- The column of a value in a row, which promises nothing about other rows. -/
def rowColumn (database table name : String) (value : Value) : Column :=
  .make database table name (.ofValue value) .unknown .rowDerived

/-- The columns of one field of a row: those inside a document, else the field itself. -/
def fieldColumns (database : String) : String × Value → List Column
  | (table, .document fields) =>
    -- A document groups the columns of one datasource.
    fields.map fun (name, value) => rowColumn database table name value
  | (name, value) => [rowColumn database "" name value]

/-- The columns of a row. -/
def describeRow (database : String) (row : Document) : Header :=
  -- Fields of one name make a column each.
  ⟨row.flatMap (fieldColumns database)⟩

/-- The columns of a row, or of the placeholder when no row is at hand. -/
def describe (source : HeaderSource) (row : Option Document) : Header :=
  match source with
  | .schema header => header
  | .rows database placeholder =>
    -- The row at hand comes before the placeholder.
    match row.or placeholder with
    | some doc => describeRow database doc
    | none => {}

/-- How the columns are found. -/
def strategy : HeaderSource → Strategy
  | .schema _ => .schemaKnown
  | .rows _ _ => .rowDerived

instance : HeaderProvider HeaderSource where
  strategy := strategy
  describe row source := (.ok (source.describe row), source)

end HeaderSource

end BsonTable
