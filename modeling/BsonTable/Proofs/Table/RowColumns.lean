import BsonTable.Table.Source

/-!
Columns that are made from a row read back the values they were made from, unless the unnamed
datasource of the row hides a field that stands beside it.
-/

namespace BsonTable.HeaderSource

/-- The values that the columns of a field are made from. -/
def fieldValues : String × Value → List Value
  | (_, .document fields) => fields.map Prod.snd
  | (_, value) => [value]

/-- The values that the columns of a row are made from, column by column. -/
def rowValues (row : Document) : List Value :=
  row.flatMap fieldValues

/-- What the unnamed datasource of a row has under a name. -/
def unnamedValue? (name : String) (row : Document) : Option Value :=
  -- Under the empty name there may also be a plain value, which has nothing inside.
  match Fields.get? "" row with
  | some (.document fields) => Fields.get? name fields
  | _ => none

/-- The values that the columns of a field read from their row. -/
def readValues (row : Document) : String × Value → List Value
  | (_, .document fields) => fields.map Prod.snd
  -- A field without a datasource is read where the unnamed datasource has nothing of its name.
  | (name, value) => [(unnamedValue? name row).getD value]

/-- Whether no two fields of a row, or of one of its datasources, have the same key. -/
structure HasDistinctKeys (row : Document) : Prop where
  top : (Fields.keys row).Nodup
  inside : ∀ table fields, (table, .document fields) ∈ row → (Fields.keys fields).Nodup

/-- Whether the unnamed datasource of a row has no other value for a field that stands beside it. -/
def NothingHidden (row : Document) : Prop :=
  -- Documents beside it are datasources of their own, whose fields are never looked for in it.
  ∀ name value, (name, value) ∈ row → (∀ fields, value ≠ .document fields) →
    ∀ other, unnamedValue? name row = some other → other = value

/-- Lists put together from pieces of the same lengths are equal when the pieces are. -/
theorem flatMap_eq_iff {α : Type u} {β : Type v} {f g : α → List β} {list : List α}
    (sizes : ∀ x, (f x).length = (g x).length) :
    list.flatMap f = list.flatMap g ↔ ∀ x ∈ list, f x = g x := by
  -- Pieces of the same length end at the same place, so no element can slip into another piece.
  induction list with
  | nil => simp
  | cons x rest ih =>
    rw [List.flatMap_cons, List.flatMap_cons, List.forall_mem_cons, ← ih]
    constructor
    · intro same
      exact List.append_inj same (sizes x)
    · rintro ⟨first, later⟩
      rw [first, later]

/-- A column inside a datasource reads the field of its name there. -/
theorem extract_qualified {row : Document} (distinct : HasDistinctKeys row) {table name : String}
    {fields : Fields Value} {value : Value} (datasource : (table, .document fields) ∈ row)
    (field : (name, value) ∈ fields) (database : String) :
    (rowColumn database table name value).extract row = value := by
  -- As keys are distinct, looking a field up finds the one the column was made from.
  have outer : Fields.get? table row = some (.document fields) :=
    Fields.get?_of_mem distinct.top datasource
  have inner : Fields.get? name fields = some value :=
    Fields.get?_of_mem (distinct.inside table fields datasource) field
  have found : (rowColumn database table name value).qualifiedValue? row = some value := by
    show (match Fields.get? table row with
      | some (.document datasource) => Fields.get? name datasource
      | _ => none) = some value
    rw [outer]
    exact inner
  -- What is found inside the datasource comes before anything at the top.
  rw [Column.extract, found]
  rfl

/-- A column without a datasource looks inside the unnamed one before it reads its own field. -/
theorem extract_unqualified {row : Document} (distinct : HasDistinctKeys row) {name : String}
    {value : Value} (field : (name, value) ∈ row) (database : String) :
    (rowColumn database "" name value).extract row = (unnamedValue? name row).getD value := by
  have inside : (rowColumn database "" name value).qualifiedValue? row = unnamedValue? name row :=
    rfl
  have top : (rowColumn database "" name value).unqualifiedValue? row = some value :=
    Fields.get?_of_mem distinct.top field
  rw [Column.extract, inside, top]
  cases unnamedValue? name row <;> rfl

/-- The columns of a field read its own values, but for what the unnamed datasource hides. -/
theorem fieldColumns_extract {row : Document} (distinct : HasDistinctKeys row) (database : String)
    {field : String × Value} (member : field ∈ row) :
    (fieldColumns database field).map (·.extract row) = readValues row field := by
  obtain ⟨name, value⟩ := field
  cases value with
  | document fields =>
    -- Each column of the datasource is made from one of its fields.
    have own : ∀ inner ∈ fields, (rowColumn database name inner.1 inner.2).extract row = inner.2 :=
      fun inner among => extract_qualified distinct member among database
    calc (fieldColumns database (name, .document fields)).map (·.extract row)
      _ = fields.map fun inner => (rowColumn database name inner.1 inner.2).extract row :=
        List.map_map
      _ = fields.map Prod.snd := List.map_congr_left own
  | _ => exact congrArg (fun value => [value]) (extract_unqualified distinct member database)

/-- The columns of a row read its own values, but for what the unnamed datasource hides. -/
theorem describeRow_reads {row : Document} (distinct : HasDistinctKeys row) (database : String) :
    (Row.ofDocument (describeRow database row) row).values = row.flatMap (readValues row) := by
  have sizes : ∀ field : String × Value,
      ((fieldColumns database field).map (·.extract row)).length =
        (readValues row field).length := by
    rintro ⟨name, value⟩
    cases value with
    | document fields => simp [fieldColumns, readValues]
    | _ => rfl
  show (row.flatMap (fieldColumns database)).map (·.extract row) = _
  -- Columns come field by field, so it is enough to look at those of one field.
  rw [List.map_flatMap, flatMap_eq_iff sizes]
  exact fun field member => fieldColumns_extract distinct database member

/-- The columns of a row have the types of the values they are made from. -/
theorem describeRow_types (database : String) (row : Document) :
    (describeRow database row).columns.map (·.type) = (rowValues row).map .ofValue := by
  have types : ∀ field : String × Value,
      (fieldColumns database field).map (·.type) = (fieldValues field).map .ofValue := by
    rintro ⟨name, value⟩
    cases value with
    | document fields => simp [fieldColumns, fieldValues, rowColumn, Column.make]
    | _ => rfl
  show (row.flatMap (fieldColumns database)).map (·.type) = _
  rw [rowValues, List.map_flatMap, List.map_flatMap]
  exact congrArg row.flatMap (funext types)

/-- What is read is what the columns were made from, exactly when nothing is hidden. -/
theorem readValues_eq_iff (row : Document) :
    row.flatMap (readValues row) = rowValues row ↔ NothingHidden row := by
  have sizes : ∀ field, (readValues row field).length = (fieldValues field).length := by
    rintro ⟨name, value⟩
    cases value <;> rfl
  rw [rowValues, flatMap_eq_iff sizes]
  constructor
  · intro reads name value member plain other hides
    have same := reads (name, value) member
    -- A field that is no document makes one column, which reads what hides it.
    have read : readValues row (name, value) = [other] := by
      cases value with
      | document fields => exact absurd rfl (plain fields)
      | _ => simp [readValues, hides]
    have made : fieldValues (name, value) = [value] := by
      cases value with
      | document fields => exact absurd rfl (plain fields)
      | _ => rfl
    rw [read, made] at same
    exact (List.cons.inj same).1
  · rintro nothing ⟨name, value⟩ member
    -- Without a value of its name in the unnamed datasource, a field is read itself.
    cases hides : unnamedValue? name row with
    | none => cases value <;> simp [readValues, fieldValues, hides]
    | some other =>
      cases value with
      | document fields => rfl
      | _ =>
        have same := nothing name _ member nofun other hides
        simp [readValues, fieldValues, hides, same]

/--
The columns of a row read back the values they were made from exactly when nothing is hidden.

Every column has the type of the value that it was made from. What it reads is that value, except
for a field without a datasource whose name the unnamed datasource has as well: there the value
inside the datasource is read a second time, under the type of the field that it hides.
-/
theorem row_columns_read_back {row : Document} (distinct : HasDistinctKeys row) (database : String)
    (placeholder : Option Document) :
    let header := describe (.rows database placeholder) (some row)
    header.columns.map (·.type) = (rowValues row).map .ofValue ∧
      (Row.ofDocument header row).values = row.flatMap (readValues row) ∧
      ((Row.ofDocument header row).values = rowValues row ↔ NothingHidden row) := by
  intro header
  have reads : (Row.ofDocument header row).values = row.flatMap (readValues row) :=
    describeRow_reads distinct database
  refine ⟨describeRow_types database row, reads, ?_⟩
  rw [reads]
  exact readValues_eq_iff row

/-- An unnamed datasource and a named field next to it have no key twice. -/
theorem distinctKeys_unnamed {fields : Fields Value} (inside : (Fields.keys fields).Nodup)
    {name : String} (named : name ≠ "") {value : Value} (plain : ∀ other, value ≠ .document other) :
    HasDistinctKeys [("", .document fields), (name, value)] where
  top := by
    show ["", name].Nodup
    simpa using named.symm
  inside := by
    intro table other member
    rcases List.mem_cons.mp member with same | member
    · cases same
      exact inside
    · -- The field is no datasource.
      cases List.mem_singleton.mp member
      exact absurd rfl (plain other)

/-- An unnamed datasource next to a field of another name hides nothing, and both values are
read. -/
theorem row_columns_read_back_unnamed :
    let row : Document := [("", .document [("a", .int 1)]), ("b", .int 2)]
    let header := describe (.rows "sales" none) (some row)
    HasDistinctKeys row ∧ header.columns.map (·.type) = [.ofName .int, .ofName .int] ∧
      (Row.ofDocument header row).values = [.int 1, .int 2] ∧ rowValues row = [.int 1, .int 2] ∧
      NothingHidden row := by
  intro row header
  have distinct : HasDistinctKeys row := distinctKeys_unnamed (by decide) (by decide) nofun
  obtain ⟨types, reads, readBack⟩ := row_columns_read_back distinct "sales" none
  -- The columns read the values that they were made from, so that no value is hidden.
  have values : (Row.ofDocument header row).values = [.int 1, .int 2] := reads.trans rfl
  exact ⟨distinct, types, values, rfl, readBack.mp (values.trans rfl)⟩

/-- Not every row is read back: a field next to an unnamed datasource with its name is hidden. -/
theorem hidden_field_not_read_back :
    ¬ ∀ (row : Document) (database : String), HasDistinctKeys row →
      (Row.ofDocument (describe (.rows database none) (some row)) row).values = rowValues row := by
  intro readBack
  have distinct : HasDistinctKeys [("", .document [("a", .string "x")]), ("a", .int 2)] :=
    distinctKeys_unnamed (by decide) (by decide) nofun
  have same := readBack _ "" distinct
  -- Both columns read the text inside the datasource, although the second is made from a number.
  cases same

end BsonTable.HeaderSource
