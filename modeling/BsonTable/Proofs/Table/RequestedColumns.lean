import BsonTable.Proofs.Schema.Malformed
import BsonTable.Proofs.Table.DeclaredColumns
import BsonTable.Proofs.Text.ByteOrder

/-!
Which columns a known schema shows: the requested ones as they were requested, or else all declared
ones, sorted or as declared. None is lost on the way, and each is described by its own declaration.
-/

namespace BsonTable

/-- The declared key of a column. -/
def Column.key (column : Column) : HeaderSource.ColumnKey :=
  (column.table, column.name)

namespace HeaderSource

/-- Whether a schema is one for documents that declares nothing but these tables, in order. -/
def DeclaresTables (schema : ResultSchema) (tables : Fields DocumentShape) : Prop :=
  ∃ top : DocumentShape, schema.schema = top.toSchema ∧
    -- Tables are properties at the top, each with a schema for documents.
    top.properties = tables.map fun table => (table.1, table.2.toSchema)

/-- Whether a schema declares tables, and every requested column among them. -/
def IsTabular (schema : ResultSchema) : Prop :=
  ∃ tables, DeclaresTables schema tables ∧
    ∀ order, schema.selectOrder = some order → ∀ key ∈ order, key ∈ declared tables

/-- Whether no table is declared twice, and no column of a table, as in any map. -/
def NamesDistinct (tables : Fields DocumentShape) : Prop :=
  (Fields.keys tables).Nodup ∧ ∀ table ∈ tables, (Fields.keys table.2.properties).Nodup

/-- Whether a key comes before another one, byte by byte and the table first. -/
def KeyBefore (left right : ColumnKey) : Prop :=
  -- Bytes are compared, so an upper case letter comes before all lower case ones.
  Text.bytesOf left.1 < Text.bytesOf right.1 ∨
    left.1 = right.1 ∧ Text.bytesOf left.2 < Text.bytesOf right.2

/-- The keys that a result lists, given the declared ones. -/
inductive Lists (schema : ResultSchema) (options : Options) (all : List ColumnKey) :
    List ColumnKey → Prop
  /-- A request is followed to the letter, whether or not columns are to be sorted. -/
  | requested {order : List ColumnKey} (asked : schema.selectOrder = some order) :
    Lists schema options all order
  | sorted {keys : List ColumnKey} (unasked : schema.selectOrder = none)
      (sorted : options.sorted = true) (same : keys.Perm all)
      (ascending : keys.Pairwise KeyBefore) : Lists schema options all keys
  | declared (unasked : schema.selectOrder = none) (unsorted : options.sorted = false) :
    Lists schema options all all

/-- The column of a declaration: its schema, whether its table requires it, and the database. -/
def declaredColumn (database : String) (key : ColumnKey) (leaf : Schema) (required : Bool) :
    Column :=
  -- What is undeclared, or not required, may be missing, and what is missing reads as null.
  .make database key.1 key.2 leaf.columnType
    (if leaf.admitsNull || !required then .nullable else .noNulls) .schemaKnown

/-- Whether a column is described by its own declaration. -/
def IsDescribed (options : Options) (tables : Fields DocumentShape) (column : Column) : Prop :=
  ∃ table leaf, (column.table, table) ∈ tables ∧ (column.name, leaf) ∈ table.properties ∧
    column = declaredColumn options.database column.key leaf (table.isRequired column.name)

section Acceptance

variable {schema : ResultSchema} {options : Options} {tables : Fields DocumentShape}

/-- The tables of a schema are those that it declares. -/
theorem tables_eq_ok_iff :
    HeaderSource.tables schema = .ok tables ↔ DeclaresTables schema tables := by
  refine ⟨tables_ok, ?_⟩
  rintro ⟨top, whole, properties⟩
  -- One part is known, so it remains to read the tables back from the properties.
  have object : schema.schema.asObject? = some top := by rw [whole]; rfl
  unfold HeaderSource.tables
  simp only [object]
  rw [mapM_eq_ok_iff, properties, List.forall₂_map_left_iff, List.forall₂_same]
  exact fun _ _ => rfl

/-- A requested column is taken exactly when it is declared. -/
theorem checkDeclared_eq_ok_iff {keys : List ColumnKey} {key taken : ColumnKey} :
    checkDeclared keys key = .ok taken ↔ key ∈ keys ∧ key = taken := by
  unfold checkDeclared
  split
  · rename_i among
    simp [List.contains_iff_mem.mp among]
  · rename_i missing
    simp [mt List.contains_iff_mem.mpr missing, Schema.malformed]

/-- A request is followed exactly when all that it lists is declared. -/
theorem mapM_checkDeclared_iff {keys order taken : List ColumnKey} :
    order.mapM (checkDeclared keys) = .ok taken ↔ (∀ key ∈ order, key ∈ keys) ∧ order = taken := by
  -- The request is checked key by key, and comes out as it went in.
  rw [mapM_eq_ok_iff]
  simp only [checkDeclared_eq_ok_iff]
  constructor
  · intro linked
    induction linked with
    | nil => exact ⟨nofun, rfl⟩
    | cons first _ ih =>
      exact ⟨List.forall_mem_cons.mpr ⟨first.1, ih.1⟩, congrArg₂ List.cons first.2 ih.2⟩
  · rintro ⟨among, rfl⟩
    exact List.forall₂_same.mpr fun key inside => ⟨among key inside, rfl⟩

/-- Columns can be arranged exactly when the request lists declared ones, if there is one. -/
theorem arrange_succeeds_iff {keys : List ColumnKey} :
    Succeeds (arrange schema options keys) ↔
      ∀ order, schema.selectOrder = some order → ∀ key ∈ order, key ∈ keys := by
  -- Without a request there is nothing to check.
  unfold arrange
  split
  · rename_i order asked
    simp [Succeeds, mapM_checkDeclared_iff, asked]
  · rename_i unasked
    exact iff_of_true (.ok _) (by simp [unasked])

/-- A schema has columns exactly when it is tabular. -/
theorem ofSchema_succeeds_iff : Succeeds (ofSchema schema options) ↔ IsTabular schema := by
  -- Both steps of the definition are characterized in turn.
  refine Succeeds.bind_iff.trans (exists_congr fun tables => and_congr tables_eq_ok_iff ?_)
  exact Succeeds.bind_pure_iff.trans arrange_succeeds_iff

/-- Any other schema is refused for its form. -/
theorem ofSchema_failsOnly :
    FailsOnly (fun error => ∃ reason, error = .schemaFormat reason) (ofSchema schema options) := by
  -- The schema may be no document, or a property of it none.
  have tabled : FailsOnly (fun error => ∃ reason, error = .schemaFormat reason)
      (HeaderSource.tables schema) := by
    unfold HeaderSource.tables
    split
    · exact .error ⟨_, rfl⟩
    · refine .mapM fun _ ⟨name, part⟩ _ _ _ => ?_
      dsimp only
      split
      · exact .ok _
      · exact .error ⟨_, rfl⟩
  refine tabled.bind fun tables _ => FailsOnly.bind ?_ fun _ _ => .ok _
  -- Columns that were requested must be declared; any other order is at hand.
  unfold arrange
  split
  · refine .mapM fun _ key _ _ _ => ?_
    unfold checkDeclared
    split
    · exact .ok key
    · exact .error ⟨_, rfl⟩
  · exact .ok _

end Acceptance

section Order

/-- Keys are in order when one comes before the other or both are the same. -/
theorem keyLe_iff {left right : ColumnKey} :
    keyLe left right = true ↔ KeyBefore left right ∨ left = right := by
  obtain ⟨table, name⟩ := left
  obtain ⟨table', name'⟩ := right
  -- The order is lexicographic, and equality is the only case that is not strict.
  simp only [keyLe, KeyBefore, Text.bytesOf_lt_iff, Bool.or_eq_true, Bool.and_eq_true,
    decide_eq_true_eq, beq_iff_eq, le_iff_lt_or_eq, Prod.mk.injEq]
  tauto

/-- Of two keys, one is in order with the other. -/
theorem keyLe_total (left right : ColumnKey) : (keyLe left right || keyLe right left) = true := by
  simp only [Bool.or_eq_true, keyLe_iff, KeyBefore, Text.bytesOf_lt_iff, Prod.ext_iff]
  rcases lt_trichotomy left.1 right.1 with before | same | behind
  · exact .inl (.inl (.inl before))
  · -- In one table the names decide.
    rcases lt_trichotomy left.2 right.2 with before | same' | behind
    · exact .inl (.inl (.inr ⟨same, before⟩))
    · exact .inl (.inr ⟨same, same'⟩)
    · exact .inr (.inl (.inr ⟨same.symm, behind⟩))
  · exact .inr (.inl (.inl behind))

/-- Keys in order with one between them are in order. -/
theorem keyLe_trans (left middle right : ColumnKey) (first : keyLe left middle = true)
    (second : keyLe middle right = true) : keyLe left right = true := by
  simp only [keyLe, Bool.or_eq_true, Bool.and_eq_true, decide_eq_true_eq, beq_iff_eq] at *
  -- Only two keys of one table are compared by name, so the tables decide first.
  rcases first with first | ⟨same, first⟩
  · rcases second with second | ⟨same', _⟩
    · exact .inl (first.trans second)
    · exact .inl (same' ▸ first)
  · rcases second with second | ⟨same', second⟩
    · exact .inl (same ▸ second)
    · exact .inr ⟨same.trans same', first.trans second⟩

/-- Distinct keys are sorted strictly. -/
theorem mergeSort_ascending {keys : List ColumnKey} (once : keys.Nodup) :
    (keys.mergeSort keyLe).Pairwise KeyBefore := by
  have ordered : (keys.mergeSort keyLe).Pairwise (fun left right => keyLe left right = true) :=
    List.pairwise_mergeSort keyLe_trans keyLe_total keys
  have different : (keys.mergeSort keyLe).Nodup := (List.mergeSort_perm keys keyLe).nodup_iff.mpr once
  -- Keys in order that are not the same come one before the other.
  exact (ordered.and different).imp fun ⟨le, ne⟩ => (keyLe_iff.mp le).resolve_right ne

end Order

section Columns

variable {tables : Fields DocumentShape}

/-- Distinct names make distinct keys. -/
theorem nodup_declared (distinct : NamesDistinct tables) : (declared tables).Nodup := by
  obtain ⟨once, each⟩ := distinct
  refine List.nodup_flatMap.mpr ⟨?_, ?_⟩
  · -- Keys of one table differ in the name.
    intro table inside
    exact (each table inside).map fun _ _ same => congrArg Prod.snd same
  · -- Keys of different tables differ in the table.
    refine (List.pairwise_map.mp once).imp ?_
    intro table table' different key inside inside'
    obtain ⟨_, _, rfl⟩ := List.mem_map.mp inside
    obtain ⟨_, _, same⟩ := List.mem_map.mp inside'
    exact different (congrArg Prod.fst same).symm

/-- Where no table is declared twice, a declared key has a column, which its declaration
describes. -/
theorem column?_of_declared (once : (Fields.keys tables).Nodup) (options : Options)
    {key : ColumnKey} (among : key ∈ declared tables) :
    ∃ column, column? tables options key = some column ∧ column.key = key ∧
      IsDescribed options tables column := by
  -- As no table is declared twice, looking the key up finds what it was declared by.
  obtain ⟨⟨table, shape⟩, member, named⟩ := List.mem_flatMap.mp among
  -- The key was listed for one of the tables and one of its properties.
  obtain ⟨name, declares, rfl⟩ := List.mem_map.mp named
  have datasource : Fields.get? table tables = some shape := Fields.get?_of_mem once member
  obtain ⟨leaf, field⟩ := Option.isSome_iff_exists.mp (Fields.get?_isSome_iff.mpr declares)
  have told : (shape.nullability? name).getD .nullable =
      if leaf.admitsNull || !shape.isRequired name then .nullable else .noNulls := by
    unfold DocumentShape.nullability?
    rw [field]
    dsimp only
    split <;> rfl
  refine ⟨declaredColumn options.database (table, name) leaf (shape.isRequired name), ?_, rfl,
    shape, leaf, member, Fields.mem_of_get? field, rfl⟩
  simp only [column?, datasource, field, Option.bind_eq_bind, Option.bind_some, Option.pure_def,
    told, declaredColumn]

/-- No declared key is dropped, and each column is described by its declaration. -/
theorem columns_of_declared (once : (Fields.keys tables).Nodup) (options : Options)
    {keys : List ColumnKey} (among : ∀ key ∈ keys, key ∈ declared tables) :
    (keys.filterMap (column? tables options)).map Column.key = keys ∧
      ∀ column ∈ keys.filterMap (column? tables options), IsDescribed options tables column := by
  constructor
  · -- Each key has a column with that key, so no key gets lost in the filter.
    rw [List.map_filterMap]
    refine (List.filterMap_congr ?_).trans (List.filterMap_some (l := keys))
    intro key inside
    obtain ⟨column, found, same, _⟩ := column?_of_declared once options (among key inside)
    rw [found, Option.map_some, same]
  · intro column inside
    obtain ⟨key, member, found⟩ := List.mem_filterMap.mp inside
    obtain ⟨_, found', _, described⟩ := column?_of_declared once options (among key member)
    cases found.symm.trans found'
    exact described

/-- What columns are arranged to is declared, and listed as it was asked for. -/
theorem arrange_ok {schema : ResultSchema} {options : Options} (distinct : NamesDistinct tables)
    {keys : List ColumnKey} (arranged : arrange schema options (declared tables) = .ok keys) :
    (∀ key ∈ keys, key ∈ declared tables) ∧ Lists schema options (declared tables) keys := by
  unfold arrange at arranged
  -- Either the request is followed, or all declared keys are arranged.
  split at arranged
  · rename_i order asked
    obtain ⟨among, rfl⟩ := mapM_checkDeclared_iff.mp arranged
    exact ⟨among, .requested asked⟩
  · rename_i unasked
    cases arranged
    split
    · rename_i sorted
      have same := List.mergeSort_perm (declared tables) keyLe
      exact ⟨fun key => same.mem_iff.mp,
        .sorted unasked sorted same (mergeSort_ascending (nodup_declared distinct))⟩
    · rename_i unsorted
      exact ⟨fun _ inside => inside, .declared unasked (by simpa using unsorted)⟩

/--
A schema has columns exactly when it is for documents, declares nothing but tables and declares all
that is requested; any other schema is refused for its form.

Its columns are then the requested ones as they were requested, or else all that it declares, in
ascending order or as declared. Each of them is described by its own schema, by whether its table
requires it, and by the database of the options, whatever the other columns are and wherever it
stands among them.
-/
theorem columns_are_as_requested (schema : ResultSchema) (options : Options) :
    ((∃ source, ofSchema schema options = .ok source) ↔ IsTabular schema) ∧
      (¬ IsTabular schema → ∃ reason, ofSchema schema options = .error (.schemaFormat reason)) ∧
      ∀ tables, DeclaresTables schema tables → NamesDistinct tables →
        ∀ source, ofSchema schema options = .ok source →
          ∃ header, source = .schema header ∧
            Lists schema options (declared tables) (header.columns.map Column.key) ∧
            ∀ column ∈ header.columns, IsDescribed options tables column := by
  have accepts : (∃ source, ofSchema schema options = .ok source) ↔ IsTabular schema :=
    ofSchema_succeeds_iff
  refine ⟨accepts, ?_, ?_⟩
  · -- What is refused is refused by one of the two steps, which both complain of form.
    intro refused
    cases made : ofSchema schema options with
    | ok source => exact absurd (accepts.mp ⟨source, made⟩) refused
    | error error =>
      obtain ⟨reason, rfl⟩ := ofSchema_failsOnly error made
      exact ⟨reason, rfl⟩
  · intro tables declares distinct source accepted
    obtain ⟨tables', keys, tabled, arranged, rfl⟩ := ofSchema_ok accepted
    cases (tables_eq_ok_iff.mpr declares).symm.trans tabled
    obtain ⟨among, lists⟩ := arrange_ok distinct arranged
    obtain ⟨whole, described⟩ := columns_of_declared distinct.1 options among
    exact ⟨_, rfl, whole.symm ▸ lists, described⟩

/-- A column that is requested twice is listed twice, and one that is not is left out. -/
theorem repeated_request_is_followed :
    let table : DocumentShape :=
      { properties := [("x", .scalar .int), ("y", .any)], required := ["x"] }
    let tables : Fields DocumentShape := [("t", table), ("", table)]
    let top : DocumentShape := { properties := tables.map fun table => (table.1, table.2.toSchema) }
    let order : List ColumnKey := [("t", "x"), ("", "y"), ("t", "x")]
    let schema : ResultSchema := { schema := top.toSchema, selectOrder := some order }
    let options : Options := { sorted := true }
    DeclaresTables schema tables ∧ NamesDistinct tables ∧
      ∃ header, ofSchema schema options = .ok (.schema header) ∧
        header.columns.map Column.key = order ∧
        ∀ column ∈ header.columns, IsDescribed options tables column := by
  intro table tables top order schema options
  have declares : DeclaresTables schema tables := ⟨top, rfl, rfl⟩
  have distinct : NamesDistinct tables := by
    simp [NamesDistinct, Fields.keys, tables, table]
  obtain ⟨accepts, _, lists⟩ := columns_are_as_requested schema options
  -- The request lists declared columns only, one of them twice.
  have tabular : IsTabular schema := by
    refine ⟨tables, declares, ?_⟩
    rintro _ ⟨⟩
    decide
  obtain ⟨source, accepted⟩ := accepts.mpr tabular
  obtain ⟨header, rfl, listed, described⟩ := lists tables declares distinct source accepted
  refine ⟨declares, distinct, header, accepted, ?_, described⟩
  -- The request rules out every other list.
  generalize same : header.columns.map Column.key = keys at listed
  cases listed with
  | requested asked => exact (Option.some.inj asked).symm
  | sorted unasked => cases unasked
  | declared unasked => cases unasked

end Columns

end HeaderSource

end BsonTable
