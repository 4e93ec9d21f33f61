import BsonTable.Proofs.Schema.Nullability
import BsonTable.Proofs.Schema.RoundTrip
import BsonTable.Table.Source

/-!
What the columns of a known schema read from rows that conform to it: a field of their table as it
was declared, or what an absent field reads as.
-/

namespace BsonTable

/-- Whether the datasource of a column has no field of its name in a row. -/
def Column.IsMissing (column : Column) (row : Document) : Prop :=
  -- There need not be a datasource at all.
  ∀ fields, Fields.get? column.table row = some (.document fields) →
    Fields.get? column.name fields = none

/-- What a column that was declared with a schema may read from a row. -/
inductive Column.ReadsAsDeclared (column : Column) (leaf : Schema) (row : Document) : Value → Prop
  /-- The field of the datasource, which conforms to what was declared. -/
  | inside {fields : Document} {value : Value}
      (datasource : Fields.get? column.table row = some (.document fields))
      (field : Fields.get? column.name fields = some value)
      (conforms : leaf.accepts value = true) : ReadsAsDeclared column leaf row value
  /-- Null, where there is no such field. -/
  | absent (missing : column.IsMissing row)
      (alone : column.table = "" → Fields.get? column.name row = none) :
      ReadsAsDeclared column leaf row .null
  /-- The field at the top, where the unnamed datasource has no such field. -/
  | beside {value : Value} (unnamed : column.table = "") (missing : column.IsMissing row)
      (field : Fields.get? column.name row = some value) : ReadsAsDeclared column leaf row value

namespace Column

variable {column : Column} {row : Document}

/-- No value is found in the datasource exactly when the field is missing. -/
theorem qualifiedValue?_eq_none_iff : column.qualifiedValue? row = none ↔ column.IsMissing row := by
  unfold qualifiedValue? IsMissing
  -- A datasource that is no document has no field of that name either.
  split
  · rename_i fields found
    simp [found]
  · rename_i other
    exact iff_of_true rfl fun fields datasource => (other fields datasource).elim

/-- A field of the datasource is what the column reads. -/
theorem extract_of_field {fields : Document} {value : Value}
    (datasource : Fields.get? column.table row = some (.document fields))
    (field : Fields.get? column.name fields = some value) : column.extract row = value := by
  -- The search in the datasource comes first, and succeeds.
  have found : column.qualifiedValue? row = some value := by
    simp only [qualifiedValue?, datasource, field]
  rw [extract, found]
  rfl

end Column

namespace HeaderSource

/-- Where a column comes from: a field of a table of a result schema. -/
structure Declares (schema : ResultSchema) (top table : DocumentShape) (leaf : Schema)
    (column : Column) : Prop where
  whole : schema.schema = top.toSchema
  datasource : Fields.get? column.table top.properties = some table.toSchema
  field : Fields.get? column.name table.properties = some leaf
  type : column.type = leaf.columnType
  nullability : column.nullability = (table.nullability? column.name).getD .nullable

variable {schema : ResultSchema} {options : Options}

/-- The parts of a schema for documents make it up again. -/
theorem toSchema_of_asObject? {part : Schema} {shape : DocumentShape}
    (object : part.asObject? = some shape) : part = shape.toSchema := by
  cases part <;> cases object
  rfl

/-- The tables of a schema are its properties, each of which is a schema for documents. -/
theorem tables_ok {tables : Fields DocumentShape}
    (accepted : HeaderSource.tables schema = .ok tables) :
    ∃ top : DocumentShape, schema.schema = top.toSchema ∧
      top.properties = tables.map fun table => (table.1, table.2.toSchema) := by
  -- A schema whose top is no document, or that has another property, is refused.
  unfold HeaderSource.tables at accepted
  split at accepted
  · cases accepted
  · rename_i top object
    refine ⟨top, toSchema_of_asObject? object, ?_⟩
    -- Properties and tables come in pairs, and each property is the schema of its table.
    have paired : List.Forall₂ (fun property table => property = (table.1, table.2.toSchema))
        top.properties tables := by
      refine (mapM_eq_ok_iff.mp accepted).imp ?_
      rintro ⟨name, part⟩ table step
      dsimp only at step
      split at step
      · rename_i shape inner
        cases step
        exact Prod.ext rfl (toSchema_of_asObject? inner)
      · cases step
    exact List.forall₂_eq_eq_eq ▸ List.forall₂_map_right_iff.mpr paired

/-- An accepted schema is one whose tables can be told and whose columns can be arranged. -/
theorem ofSchema_ok {source : HeaderSource} (accepted : ofSchema schema options = .ok source) :
    ∃ tables keys, HeaderSource.tables schema = .ok tables ∧
      arrange schema options (declared tables) = .ok keys ∧
      source = .schema ⟨keys.filterMap (column? tables options)⟩ := by
  -- The two steps of the definition are taken apart.
  obtain ⟨tables, tabled, accepted⟩ := bind_eq_ok_iff.mp accepted
  obtain ⟨keys, arranged, made⟩ := bind_eq_ok_iff.mp accepted
  cases made
  exact ⟨tables, keys, tabled, arranged, rfl⟩

/-- A column of a declared key is made from what the key finds. -/
theorem column?_ok {tables : Fields DocumentShape} {key : ColumnKey} {column : Column}
    (made : column? tables options key = some column) :
    ∃ table leaf, Fields.get? key.1 tables = some table ∧
      Fields.get? key.2 table.properties = some leaf ∧
      column = .make options.database key.1 key.2 leaf.columnType
        ((table.nullability? key.2).getD .nullable) .schemaKnown := by
  -- The table is looked up first, and then the field in it.
  obtain ⟨table, datasource, made⟩ := Option.bind_eq_some_iff.mp made
  obtain ⟨leaf, field, made⟩ := Option.bind_eq_some_iff.mp made
  cases made
  exact ⟨table, leaf, datasource, field, rfl⟩

/-- An accepted schema gives columns that it declares. -/
theorem ofSchema_declares {source : HeaderSource}
    (accepted : ofSchema schema options = .ok source) :
    ∃ header, source = .schema header ∧
      ∀ column ∈ header.columns, ∃ top table leaf, Declares schema top table leaf column := by
  obtain ⟨tables, keys, tabled, _, rfl⟩ := ofSchema_ok accepted
  obtain ⟨top, whole, properties⟩ := tables_ok tabled
  refine ⟨_, rfl, ?_⟩
  intro column among
  -- However the keys are arranged, each column is made from what its key finds.
  obtain ⟨key, _, made⟩ := List.mem_filterMap.mp among
  obtain ⟨table, leaf, datasource, field, rfl⟩ := column?_ok made
  refine ⟨top, table, leaf, whole, ?_, field, rfl, rfl⟩
  show Fields.get? key.1 top.properties = some table.toSchema
  rw [properties, Fields.get?_map, datasource]
  rfl

namespace Declares

variable {top table : DocumentShape} {leaf : Schema} {column : Column} {row : Document}

/-- What a row has under the name of the table is a document that conforms to the table. -/
theorem table_accepts (declares : Declares schema top table leaf column)
    (conforms : schema.schema.accepts (.document row) = true) {value : Value}
    (datasource : Fields.get? column.table row = some value) :
    ∃ fields, value = .document fields ∧ table.toSchema.accepts (.document fields) = true := by
  -- The row conforms as a whole, and with it what stands under the name of the table.
  rw [declares.whole] at conforms
  have accepted := DocumentShape.accepts_of_declared conforms declares.datasource datasource
  cases value with
  | document fields => exact ⟨fields, rfl, accepted⟩
  | _ => simp [DocumentShape.toSchema, Schema.accepts] at accepted

/-- A column reads from a row that conforms to the schema as it was declared. -/
theorem reads (declares : Declares schema top table leaf column)
    (conforms : schema.schema.accepts (.document row) = true) :
    column.ReadsAsDeclared leaf row (column.extract row) := by
  cases inside : column.qualifiedValue? row with
  | some value =>
    -- The field was found in a document of the row, which conforms to the table.
    unfold Column.qualifiedValue? at inside
    split at inside
    · rename_i fields datasource
      obtain ⟨_, same, accepted⟩ := declares.table_accepts conforms datasource
      cases same
      rw [Column.extract_of_field datasource inside]
      exact .inside datasource inside
        (DocumentShape.accepts_of_declared accepted declares.field inside)
    · cases inside
  | none =>
    have missing := Column.qualifiedValue?_eq_none_iff.mp inside
    rw [Column.extract, inside, Option.none_or]
    by_cases unnamed : column.table = ""
    · rw [Column.unqualifiedValue?, if_pos unnamed]
      cases field : Fields.get? column.name row with
      | none => exact .absent missing fun _ => field
      | some value => exact .beside unnamed missing field
    · -- Nobody looks for a column of another table at the top.
      rw [Column.unqualifiedValue?, if_neg unnamed]
      exact .absent missing fun same => (unnamed same).elim

/-- A column without nulls reads none from a row that has its table. -/
theorem isNullLike_eq_false (declares : Declares schema top table leaf column)
    (canonical : schema.schema.IsCanonical) (promised : column.nullability = .noNulls)
    (conforms : schema.schema.accepts (.document row) = true)
    (present : (Fields.get? column.table row).isSome) :
    (column.extract row).isNullLike = false := by
  obtain ⟨value, datasource⟩ := Option.isSome_iff_exists.mp present
  obtain ⟨fields, rfl, accepted⟩ := declares.table_accepts conforms datasource
  -- The promise comes from the table, as a column is otherwise reported as nullable.
  have tablePromise : table.nullability? column.name = some .noNulls := by
    rw [declares.nullability] at promised
    cases told : table.nullability? column.name with
    | none =>
      rw [told] at promised
      cases promised
    | some nullability =>
      rw [told] at promised
      exact congrArg some promised
  -- The table is part of the schema, so it is canonical as well.
  have canonicalTable : table.toSchema.IsCanonical := by
    rw [declares.whole] at canonical
    cases canonical with
    | object once ascending parts => exact parts _ (Fields.mem_of_get? declares.datasource)
  obtain ⟨inner, field, notNull⟩ :=
    DocumentShape.present_of_noNulls canonicalTable tablePromise accepted
  rw [Column.extract_of_field datasource field]
  exact notNull

/-- A row has every table that the schema requires. -/
theorem table_of_required (declares : Declares schema top table leaf column)
    (conforms : schema.schema.accepts (.document row) = true)
    (required : top.isRequired column.table = true) : (Fields.get? column.table row).isSome := by
  rw [declares.whole] at conforms
  exact Option.isSome_iff_exists.mpr (DocumentShape.get?_of_isRequired conforms required)

end Declares

end HeaderSource

/-- The schema that a reply carries is canonical. -/
theorem ResultSchema.ofDocument_canonical {reply : Document} {schema : ResultSchema}
    (read : ofDocument reply = .ok schema) : schema.schema.IsCanonical := by
  -- A reply is a bare schema, or an envelope around one.
  unfold ofDocument at read
  split at read
  · -- A bare schema is read as it stands.
    obtain ⟨bare, parsed, made⟩ := bind_eq_ok_iff.mp read
    cases made
    exact Schema.ofDocument_canonical parsed
  · split at read
    · cases read
    · split at read
      · obtain ⟨version, _, read⟩ := bind_eq_ok_iff.mp read
        obtain ⟨inner, parsed, read⟩ := bind_eq_ok_iff.mp read
        obtain ⟨selectOrder, _, made⟩ := bind_eq_ok_iff.mp read
        cases made
        -- An envelope has its schema inside.
        unfold schemaOf at parsed
        split at parsed
        · exact Schema.ofDocument_canonical parsed
        · cases parsed
        · cases parsed
      · cases read

namespace HeaderSource

/--
The columns of a known schema read from conforming rows as they were declared.

Where its table has the field, a column reads a value that conforms to the declaration of the field.
Otherwise it reads null, unless it is a column of the unnamed table whose name stands at the top of
the row: then it reads the field there.
-/
theorem declared_columns_read_as_declared {schema : ResultSchema} {options : Options}
    {source : HeaderSource} (accepted : ofSchema schema options = .ok source) :
    ∃ header, source = .schema header ∧ ∀ column ∈ header.columns, ∃ top table leaf,
      Declares schema top table leaf column ∧
        ∀ row, schema.schema.accepts (.document row) = true →
          column.ReadsAsDeclared leaf row (column.extract row) := by
  obtain ⟨header, whole, declared⟩ := ofSchema_declares accepted
  refine ⟨header, whole, ?_⟩
  intro column among
  obtain ⟨top, table, leaf, declares⟩ := declared column among
  exact ⟨top, table, leaf, declares, fun _ conforms => declares.reads conforms⟩

/-- A field beside the tables is read for an unnamed column, whatever its type. -/
theorem declared_columns_read_as_declared_beside :
    let unnamed : DocumentShape := { properties := [("x", .scalar .int)] }
    let table : DocumentShape := { properties := [("a", .scalar .int)], required := ["a"] }
    let schema : ResultSchema :=
      { schema := .object [("", unnamed.toSchema), ("t", table.toSchema)] ["t"] true }
    let row : Document := [("x", .string "seven"), ("t", .document [("a", .int 1)])]
    schema.schema.accepts (.document row) = true ∧
    ∃ header, ofSchema schema {} = .ok (.schema header) ∧
      header.columns.map (·.extract row) = [.string "seven", .int 1] ∧
      ∀ column ∈ header.columns, ∃ top table leaf, Declares schema top table leaf column ∧
        column.ReadsAsDeclared leaf row (column.extract row) := by
  intro unnamed table schema row
  -- The row has no unnamed table, but a field that is called like its column.
  have conforms : schema.schema.accepts (.document row) = true := by decide
  obtain ⟨source, accepted⟩ : ∃ source, ofSchema schema {} = .ok source := ⟨_, rfl⟩
  obtain ⟨header, rfl, reads⟩ := declared_columns_read_as_declared accepted
  cases accepted
  refine ⟨conforms, _, rfl, rfl, ?_⟩
  intro column among
  obtain ⟨top, table, leaf, declares, each⟩ := reads column among
  exact ⟨top, table, leaf, declares, each row conforms⟩

/-- An unnamed column that is absent may read the document of another table, which has its name. -/
theorem unnamed_column_reads_other_table :
    ¬ ∀ (schema : ResultSchema) (header : Header), ofSchema schema {} = .ok (.schema header) →
      ∀ column ∈ header.columns, ∀ top table leaf, Declares schema top table leaf column →
      ∀ row, schema.schema.accepts (.document row) = true →
        leaf.accepts (column.extract row) = true ∨
          column.extract row = .null ∧ column.IsMissing row := by
  intro reads
  let unnamed : DocumentShape := { properties := [("x", .scalar .int)] }
  let other : DocumentShape := { properties := [("a", .scalar .int)] }
  let top : DocumentShape := { properties := [("", unnamed.toSchema), ("x", other.toSchema)] }
  -- The row has the table that is called like the column, and no unnamed table.
  rcases reads { schema := top.toSchema } _ rfl _ List.mem_cons_self top unnamed (.scalar .int)
    ⟨rfl, rfl, rfl, rfl, rfl⟩ [("x", .document [("a", .int 1)])] (by decide) with
    conforms | ⟨null, _⟩
  · cases conforms
  · cases null

/--
A column without nulls reads none from the rows that have its table.

In particular it reads none from any row where the schema requires the table. This is so for every
schema in canonical form, as every schema is that comes with a reply.
-/
theorem noNulls_columns_read_no_null :
    (∀ (reply : Document) (schema : ResultSchema), ResultSchema.ofDocument reply = .ok schema →
      schema.schema.IsCanonical) ∧
    ∀ (schema : ResultSchema) (options : Options) (source : HeaderSource),
      ofSchema schema options = .ok source → schema.schema.IsCanonical →
      ∃ header, source = .schema header ∧ ∀ column ∈ header.columns,
        column.nullability = .noNulls → ∃ top table leaf, Declares schema top table leaf column ∧
          ∀ row, schema.schema.accepts (.document row) = true →
            (Fields.get? column.table row).isSome ∨ top.isRequired column.table = true →
            (column.extract row).isNullLike = false := by
  refine ⟨fun _ _ read => ResultSchema.ofDocument_canonical read, ?_⟩
  intro schema options source accepted canonical
  obtain ⟨header, whole, declared⟩ := ofSchema_declares accepted
  refine ⟨header, whole, ?_⟩
  intro column among promised
  obtain ⟨top, table, leaf, declares⟩ := declared column among
  refine ⟨top, table, leaf, declares, ?_⟩
  intro row conforms present
  apply declares.isNullLike_eq_false canonical promised conforms
  -- A table that is required is one that the row has.
  exact present.elim id fun required => declares.table_of_required conforms required

/-- A required number of a required table, as a reply declares it, is never null. -/
theorem noNulls_columns_read_no_null_required :
    let table : DocumentShape := { properties := [("a", .scalar .int)], required := ["a"] }
    let top : DocumentShape := { properties := [("t", table.toSchema)], required := ["t"] }
    let row : Document := [("t", .document [("a", .int 1)])]
    ∃ schema header, ResultSchema.ofDocument top.toSchema.toDocument = .ok schema ∧
      ofSchema schema {} = .ok (.schema header) ∧
      schema.schema.accepts (.document row) = true ∧
      header.columns.map (·.nullability) = [.noNulls] ∧
      ∀ column ∈ header.columns, (column.extract row).isNullLike = false := by
  intro table top row
  -- The schema is in canonical form, and so it comes back from its own document.
  have inner : table.toSchema.IsCanonical :=
    .singleton (.scalar (by decide)) (List.pairwise_singleton _ _)
  have whole : top.toSchema.IsCanonical := .singleton inner (List.pairwise_singleton _ _)
  have bare : Fields.get? "schema" top.toSchema.toDocument = none := rfl
  have read : ResultSchema.ofDocument top.toSchema.toDocument =
      .ok { schema := top.toSchema } := by
    simp only [ResultSchema.ofDocument, bare, Schema.ofDocument_toDocument whole]
    rfl
  have conforms : top.toSchema.accepts (.document row) = true := by decide
  obtain ⟨source, accepted⟩ : ∃ source, ofSchema { schema := top.toSchema } {} = .ok source :=
    ⟨_, rfl⟩
  obtain ⟨canonical, reads⟩ := noNulls_columns_read_no_null
  obtain ⟨header, rfl, each⟩ := reads _ {} source accepted (canonical _ _ read)
  cases accepted
  refine ⟨_, _, read, rfl, conforms, rfl, ?_⟩
  intro column among
  cases List.mem_singleton.mp among
  obtain ⟨top, table, leaf, declares, present⟩ := each _ List.mem_cons_self rfl
  exact present row conforms (.inl rfl)

/--
Without nulls as it is, a column reads null where the row does not have its table.

Out of canonical form it may read null even from its table, as nulls inside nested unions are not
looked for.
-/
theorem noNulls_column_reads_null :
    (¬ ∀ (schema : ResultSchema) (header : Header), ofSchema schema {} = .ok (.schema header) →
      schema.schema.IsCanonical → ∀ column ∈ header.columns, column.nullability = .noNulls →
      ∀ row, schema.schema.accepts (.document row) = true →
        (column.extract row).isNullLike = false) ∧
    ¬ ∀ (schema : ResultSchema) (header : Header), ofSchema schema {} = .ok (.schema header) →
      ∀ column ∈ header.columns, column.nullability = .noNulls →
      ∀ row, schema.schema.accepts (.document row) = true →
        (Fields.get? column.table row).isSome → (column.extract row).isNullLike = false := by
  constructor
  · intro never
    -- The first schema is canonical; the second one has a union in a union.
    let table : DocumentShape := { properties := [("a", .scalar .int)], required := ["a"] }
    -- The table is declared, but no row needs to have it.
    let top : DocumentShape := { properties := [("t", table.toSchema)] }
    have canonical : top.toSchema.IsCanonical :=
      .singleton (.singleton (.scalar (by decide)) (List.pairwise_singleton _ _)) .nil
    cases never { schema := top.toSchema } _ rfl canonical _ List.mem_cons_self rfl [] (by decide)
  · intro never
    let nested : Schema := .anyOf [.anyOf [.scalar .int, .scalar .null]]
    let table : DocumentShape := { properties := [("a", nested)], required := ["a"] }
    let top : DocumentShape := { properties := [("t", table.toSchema)], required := ["t"] }
    cases never { schema := top.toSchema } _ rfl _ List.mem_cons_self rfl
      [("t", .document [("a", .null)])] (by decide) rfl

end HeaderSource

end BsonTable
