import BsonTable.Proofs.Table.Addressing
import BsonTable.Proofs.Table.RequestedColumns

/-! Rows laid out exactly as a schema declares show columns that go by the declared names. -/

namespace BsonTable.HeaderSource

/-- What the column of a declared key goes by. -/
def identityOf (key : ColumnKey) : String × String × String :=
  -- Columns are labelled by their names.
  (key.1, key.2, key.2)

/-- Whether a field is the document of a table, with exactly the declared columns in order. -/
def IsLaidOut (table : String × DocumentShape) (field : String × Value) : Prop :=
  field.1 = table.1 ∧ ∃ fields, field.2 = .document fields ∧
    Fields.keys fields = Fields.keys table.2.properties

/-- Whether a row is made of exactly the declared tables in order, whatever values stand in them. -/
structure IsRegular (schema : ResultSchema) (row : Document) : Prop where
  distinct : (Fields.keys row).Nodup
  laidOut : ∃ shapes, tables schema = .ok shapes ∧ List.Forall₂ IsLaidOut shapes row

/-- A row that is laid out as declared has the declared tables as its keys. -/
theorem keys_of_laidOut {shapes : Fields DocumentShape} {row : Document}
    (laidOut : List.Forall₂ IsLaidOut shapes row) : Fields.keys row = Fields.keys shapes := by
  -- Tables and fields come in pairs, each pair under one key.
  induction laidOut with
  | nil => rfl
  | cons first _ ih =>
    show _ :: _ = _ :: _
    rw [first.1]
    exact congrArg (List.cons _) ih

/-- The columns of a row belong to its database. -/
theorem describeRow_isIn (database : String) (row : Document) :
    (describeRow database row).IsIn database := by
  intro column among
  obtain ⟨⟨name, value⟩, _, inside⟩ := List.mem_flatMap.mp among
  -- A column is made from a field of a document, or from a field that is no document.
  cases value with
  | document fields =>
    obtain ⟨field, _, rfl⟩ := List.mem_map.mp inside
    rfl
  | _ =>
    cases List.mem_singleton.mp inside
    rfl

/-- So do the columns of a placeholder, and of the row it stands for. -/
theorem describe_isIn (database : String) (placeholder row : Option Document) :
    ((HeaderSource.rows database placeholder).describe row).IsIn database := by
  unfold describe
  dsimp only
  cases row.or placeholder with
  | some doc => exact describeRow_isIn database doc
  | none => exact fun _ among => absurd among List.not_mem_nil

/-- The columns of such a row go by the declared keys. -/
theorem describeRow_identities (database : String) {shapes : Fields DocumentShape}
    {row : Document} (laidOut : List.Forall₂ IsLaidOut shapes row) :
    (describeRow database row).columns.map Column.identity =
      (declared shapes).map identityOf := by
  show (row.flatMap (fieldColumns database)).map Column.identity = _
  induction laidOut with
  | nil => rfl
  | @cons table field _ _ first _ ih =>
    obtain ⟨name, value⟩ := field
    obtain ⟨same, fields, document, keys⟩ := first
    dsimp only at same document
    subst same document
    -- The fields of the document are the columns of the table, name by name.
    have columns : (fieldColumns database (table.1, .document fields)).map Column.identity =
        ((Fields.keys table.2.properties).map (table.1, ·)).map identityOf := by
      rw [← keys, Fields.keys]
      simp only [fieldColumns, List.map_map]
      rfl
    rw [List.flatMap_cons, List.map_append, columns, ih, ← List.map_append]
    rfl

/-- The columns of the schema go by the declared keys. -/
theorem ofSchema_identities {shapes : Fields DocumentShape} (once : (Fields.keys shapes).Nodup)
    (options : Options) :
    ((declared shapes).filterMap (column? shapes options)).map Column.identity =
      (declared shapes).map identityOf := by
  -- No declared key is dropped on the way, and a column goes by its key.
  have listed := (columns_of_declared once options fun _ inside => inside).1
  have made : ∀ column ∈ (declared shapes).filterMap (column? shapes options),
      column.identity = identityOf column.key := by
    intro column among
    obtain ⟨_, _, found⟩ := List.mem_filterMap.mp among
    obtain ⟨_, _, _, _, rfl⟩ := column?_ok found
    rfl
  calc ((declared shapes).filterMap (column? shapes options)).map Column.identity
      = (((declared shapes).filterMap (column? shapes options)).map Column.key).map identityOf := by
        rw [List.map_map]
        exact List.map_congr_left made
    _ = (declared shapes).map identityOf := by rw [listed]

/-- In the declared order, a schema lists its columns as every row that is laid out by it does. -/
theorem ofSchema_listsAs {schema : ResultSchema} {options : Options} {source : HeaderSource}
    (accepted : ofSchema schema options = .ok source) (unordered : schema.selectOrder = none)
    (unsorted : options.sorted = false) :
    ∃ header, source = .schema header ∧ header.IsIn options.database ∧
      ∀ row, IsRegular schema row → ∀ database, header.ListsAs (describeRow database row) := by
  obtain ⟨shapes, keys, declares, arranged, rfl⟩ := ofSchema_ok accepted
  -- Nothing asks for an order other than the declared one.
  have same : declared shapes = keys := by
    simpa only [arrange, unordered, unsorted, Bool.false_eq_true, if_false,
      Except.ok.injEq] using arranged
  subst same
  refine ⟨_, rfl, ?_, ?_⟩
  · intro column among
    obtain ⟨key, _, found⟩ := List.mem_filterMap.mp among
    obtain ⟨_, _, _, _, rfl⟩ := column?_ok found
    rfl
  · rintro row ⟨distinct, shapes', declares', laidOut⟩ database
    -- The row is laid out by the tables that the columns are made from.
    cases declares.symm.trans declares'
    rw [keys_of_laidOut laidOut] at distinct
    show List.map _ _ = _
    rw [ofSchema_identities distinct, describeRow_identities database laidOut]

end BsonTable.HeaderSource
