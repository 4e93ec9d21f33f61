import BsonTable.Proofs.Schema.Acceptance

/-! What a schema reports about types and missing values holds of all values that it accepts. -/

namespace BsonTable

namespace Schema

variable {schema : Schema} {value : Value}

/-- A null-like type accepts nothing but null-like values. -/
theorem isNullLike_of_isNullType (missing : schema.isNullType = true)
    (accepted : schema.accepts value = true) : value.isNullLike = true := by
  cases schema with
  | scalar name =>
    -- The value has the type, so it is as null-like as the type is.
    rw [accepts, beq_iff_eq] at accepted
    subst accepted
    cases value <;> first | rfl | cases missing
  | _ => cases missing

/-- A schema that is no union and says something accepts null or undefined only as a type. -/
theorem isNullType_iff (concrete : schema ≠ any) (flat : ∀ nested, schema ≠ anyOf nested) :
    schema.isNullType = true ↔ schema.accepts .null = true ∨ schema.accepts .undefined = true := by
  -- Of all types only two are null-like, and no object or array is of one of them.
  cases schema with
  | any => exact (concrete rfl).elim
  | scalar name => cases name <;> simp [isNullType, TypeName.isNullLike, accepts, Value.typeName]
  | object properties required additional => simp [isNullType, accepts]
  | array items => simp [isNullType, accepts]
  | anyOf branches => exact (flat branches rfl).elim

/-- A canonical schema admits null exactly when it accepts null or undefined. -/
theorem IsCanonical.admitsNull_iff (canonical : schema.IsCanonical) :
    schema.admitsNull = true ↔ schema.accepts .null = true ∨ schema.accepts .undefined = true := by
  cases canonical with
  | any => simp [admitsNull, accepts]
  -- Whatever else is no union is asked as a type.
  | @scalar name bare =>
    show (Schema.scalar name).isNullType = true ↔ _
    exact isNullType_iff nofun nofun
  | @object properties required additional once ascending parts =>
    show (Schema.object properties required additional).isNullType = true ↔ _
    exact isNullType_iff nofun nofun
  | @array items part =>
    show (Schema.array items).isNullType = true ↔ _
    exact isNullType_iff nofun nofun
  | @anyOf branches several distinct flat parts =>
    -- The branches are no unions, so looking at each of them alone is enough.
    have each : ∀ branch ∈ branches, branch.isNullType = true ↔
        branch.accepts .null = true ∨ branch.accepts .undefined = true :=
      fun branch inside => isNullType_iff (flat branch inside).1 (flat branch inside).2
    simp only [admitsNull, List.any_eq_true, accepts_anyOf_iff, ← exists_or, ← and_or_left]
    exact exists_congr fun branch => and_congr_right fun inside => each branch inside

/-- What a canonical schema accepts without admitting null is not null-like. -/
theorem IsCanonical.isNullLike_eq_false (canonical : schema.IsCanonical)
    (present : schema.admitsNull = false) (accepted : schema.accepts value = true) :
    value.isNullLike = false := by
  -- The reported absence of null is turned around.
  rw [Bool.eq_false_iff] at present ⊢
  intro missing
  apply present
  rw [canonical.admitsNull_iff]
  -- A null-like value is one of the two that would have to be refused.
  rcases value.isNullLike_iff.mp missing with rfl | rfl
  · exact .inl accepted
  · exact .inr accepted

/-- A schema that is no union and says something reports the type of each value it accepts. -/
theorem columnType_of_accepts (concrete : schema ≠ any) (flat : ∀ nested, schema ≠ anyOf nested)
    (accepted : schema.accepts value = true) : schema.columnType = .ofValue value := by
  -- A schema that is no union names one type, which is that of all its values.
  cases schema with
  | any => exact (concrete rfl).elim
  | scalar name =>
    rw [accepts, beq_iff_eq] at accepted
    rw [columnType, ← accepted, ColumnType.ofValue]
  | object properties required additional =>
    -- Nothing but documents is accepted, and they all have one type.
    cases value with
    | document fields => rw [columnType, ColumnType.ofValue, Value.typeName]
    | _ => simp [accepts] at accepted
  | array items =>
    cases value with
    | array elements => rw [columnType, ColumnType.ofValue, Value.typeName]
    | _ => simp [accepts] at accepted
  | anyOf branches => exact (flat branches rfl).elim

/-- The types beside null are those of all branches that are no null-like type. -/
theorem columnType_mem_concreteTypes {branch : Schema} {branches : List Schema}
    (inside : branch ∈ branches) (present : branch.isNullType = false) :
    branch.columnType ∈ concreteTypes branches := by
  -- The types are collected in order, and the null-like ones are passed over.
  induction branches with
  | nil => cases inside
  | cons first rest ih =>
    rw [concreteTypes]
    rcases List.mem_cons.mp inside with rfl | inside
    · simp [present]
    · split
      · exact ih inside
      · exact List.mem_cons_of_mem _ (ih inside)

/-- The type that a canonical schema reports is that of every value that is not null-like. -/
theorem IsCanonical.columnType_cases (canonical : schema.IsCanonical)
    (accepted : schema.accepts value = true) (present : value.isNullLike = false) :
    schema.columnType = .polymorphic ∨ schema.columnType = .ofValue value := by
  cases canonical with
  | any => exact .inl rfl
  | scalar bare => exact .inr (columnType_of_accepts nofun nofun accepted)
  | object once ascending parts => exact .inr (columnType_of_accepts nofun nofun accepted)
  | array part => exact .inr (columnType_of_accepts nofun nofun accepted)
  | anyOf several distinct flat parts =>
    -- Some branch accepts the value, and it is not a null-like type since the value is not
    -- null-like.
    obtain ⟨branch, inside, accepting⟩ := accepts_anyOf_iff.mp accepted
    have typed : branch.isNullType = false := by
      rw [Bool.eq_false_iff]
      intro missing
      simp [isNullLike_of_isNullType missing accepting] at present
    -- The branch that accepts the value reports its type, beside which there may be others.
    have listed := columnType_mem_concreteTypes inside typed
    rw [columnType_of_accepts (flat branch inside).1 (flat branch inside).2 accepting] at listed
    rw [columnType]
    split
    · rename_i none
      rw [none] at listed
      cases listed
    · rename_i only single
      rw [single] at listed
      exact .inr (List.mem_singleton.mp listed).symm
    · exact .inl rfl

end Schema

namespace DocumentShape

variable {shape : DocumentShape} {fields : Document} {name : String}

/-- A required name is that of some field. -/
theorem get?_of_isRequired (accepted : shape.toSchema.accepts (.document fields) = true)
    (required : shape.isRequired name = true) : ∃ value, Fields.get? name fields = some value := by
  -- A required name is counted as present whatever its value is.
  simp only [toSchema, Schema.accepts, Bool.and_eq_true, List.all_eq_true] at accepted
  exact Option.isSome_iff_exists.mp (accepted.1 name (List.contains_iff_mem.mp required))

/-- A field conforms to the declaration that its name finds, or is undeclared and allowed. -/
theorem field_cases (accepted : shape.toSchema.accepts (.document fields) = true) {value : Value}
    (found : Fields.get? name fields = some value) :
    (∃ schema, Fields.get? name shape.properties = some schema ∧ schema.accepts value = true) ∨
      Fields.get? name shape.properties = none ∧ shape.additional = true := by
  -- The document was accepted field by field, and this is one of them.
  simp only [toSchema, Schema.accepts, Bool.and_eq_true, List.all_eq_true] at accepted
  have judged := accepted.2 (name, value) (Fields.mem_of_get? found)
  rw [Schema.acceptsField_eq] at judged
  cases declared : Fields.get? name shape.properties with
  | none =>
    rw [declared] at judged
    exact .inr ⟨rfl, judged⟩
  | some schema =>
    rw [declared] at judged
    exact .inl ⟨schema, rfl, judged⟩

/-- A declared field conforms to its declaration. -/
theorem accepts_of_declared (accepted : shape.toSchema.accepts (.document fields) = true)
    {schema : Schema} (declared : Fields.get? name shape.properties = some schema) {value : Value}
    (found : Fields.get? name fields = some value) : schema.accepts value = true := by
  -- The declaration is found for every field of that name, allowed or not.
  rcases field_cases accepted found with ⟨_, same, conforms⟩ | ⟨none, _⟩
  · cases declared.symm.trans same
    exact conforms
  · cases declared.symm.trans none

/-- Only what is declared, required and admits no null has no nulls. -/
theorem nullability?_eq_noNulls_iff : shape.nullability? name = some .noNulls ↔
    shape.isRequired name = true ∧
      ∃ schema, Fields.get? name shape.properties = some schema ∧ schema.admitsNull = false := by
  -- The answer is compared for each combination of the three things that it depends on.
  unfold nullability?
  cases Fields.get? name shape.properties with
  | none => cases shape.isRequired name <;> cases shape.additional <;> simp
  | some schema => cases shape.isRequired name <;> cases schema.admitsNull <;> simp

/-- Nothing is promised exactly of what is neither declared nor required nor allowed. -/
theorem nullability?_eq_none_iff : shape.nullability? name = none ↔
    Fields.get? name shape.properties = none ∧ shape.isRequired name = false ∧
      shape.additional = false := by
  unfold nullability?
  cases Fields.get? name shape.properties with
  | none => cases shape.isRequired name <;> cases shape.additional <;> simp
  | some schema =>
    -- Of a declared field something is promised either way.
    dsimp only
    split <;> simp

/-- A field without nulls stands in every document, with a value that is not null-like. -/
theorem present_of_noNulls (canonical : shape.toSchema.IsCanonical)
    (promised : shape.nullability? name = some .noNulls)
    (accepted : shape.toSchema.accepts (.document fields) = true) :
    ∃ value, Fields.get? name fields = some value ∧ value.isNullLike = false := by
  obtain ⟨required, schema, declared, present⟩ := nullability?_eq_noNulls_iff.mp promised
  -- The value is there because it is required, and conforms because it is declared.
  obtain ⟨value, found⟩ := get?_of_isRequired accepted required
  cases canonical with
  | object once ascending parts =>
    exact ⟨value, found, (parts _ (Fields.mem_of_get? declared)).isNullLike_eq_false present
      (accepts_of_declared accepted declared found)⟩

/-- A field of which nothing is promised stands in no document. -/
theorem absent_of_nullability?_none (unknown : shape.nullability? name = none)
    (accepted : shape.toSchema.accepts (.document fields) = true) :
    Fields.get? name fields = none := by
  -- Neither of the two ways to be there is open.
  obtain ⟨undeclared, _, closed⟩ := nullability?_eq_none_iff.mp unknown
  cases found : Fields.get? name fields with
  | none => rfl
  | some value =>
    -- A field that is found would have to be declared or allowed.
    rcases field_cases accepted found with ⟨_, declared, _⟩ | ⟨_, allowed⟩
    · cases undeclared.symm.trans declared
    · cases closed.symm.trans allowed

end DocumentShape

namespace Schema

/--
What a canonical schema reports holds of every value that it accepts.

Null is admitted exactly where null or undefined is accepted, a reported type is that of all other
values, a field without nulls is always there, and a field that cannot occur never is.
-/
theorem reports_hold_of_accepted_values :
    (∀ schema : Schema, schema.IsCanonical →
      (schema.admitsNull = true ↔
        schema.accepts .null = true ∨ schema.accepts .undefined = true) ∧
      ∀ value, schema.accepts value = true → value.isNullLike = false →
        schema.columnType = .polymorphic ∨ schema.columnType = .ofValue value) ∧
    ∀ shape : DocumentShape, shape.toSchema.IsCanonical → ∀ (name : String) (fields : Document),
      shape.toSchema.accepts (.document fields) = true →
      (shape.nullability? name = some .noNulls →
        ∃ value, Fields.get? name fields = some value ∧ value.isNullLike = false) ∧
      (shape.nullability? name = none → Fields.get? name fields = none) := by
  -- One part is about the values of a schema, the other one about the fields of a document.
  constructor
  · intro schema canonical
    refine ⟨canonical.admitsNull_iff, ?_⟩
    intro value accepted present
    exact canonical.columnType_cases accepted present
  · intro shape canonical name fields accepted
    constructor
    · intro promised
      exact DocumentShape.present_of_noNulls canonical promised accepted
    · intro unknown
      exact DocumentShape.absent_of_nullability?_none unknown accepted

/--
An optional number is reported as a number, beside a required text, and holds a null in a document
that has the text.
-/
theorem reports_hold_of_accepted_values_optional :
    let optional : Schema := .anyOf [.scalar .int, .scalar .null]
    let shape : DocumentShape :=
      { properties := [("a", optional), ("b", .scalar .string)], required := ["a", "b"] }
    let doc : Document := [("b", .string "x"), ("a", .null)]
    optional.admitsNull = true ∧
    optional.columnType = .ofName .int ∧
    shape.toSchema.accepts (.document doc) = true ∧
    (∃ value, Fields.get? "b" doc = some value ∧ value.isNullLike = false) ∧
    Fields.get? "c" doc = none := by
  intro optional shape doc
  have canonical : optional.IsCanonical := by
    refine .anyOf (by simp) (by simp [Distinct, same]) (by simp) ?_
    intro branch inside
    simp only [List.mem_cons, List.not_mem_nil, or_false] at inside
    rcases inside with rfl | rfl <;> exact .scalar (by decide)
  have parts : ∀ field ∈ shape.properties, field.2.IsCanonical := by
    intro field inside
    rcases List.mem_cons.mp inside with rfl | inside
    · exact canonical
    · cases List.mem_singleton.mp inside
      exact .scalar (by decide)
  have accepted : shape.toSchema.accepts (.document doc) = true := by decide
  obtain ⟨schemas, shapes⟩ := reports_hold_of_accepted_values
  obtain ⟨admits, types⟩ := schemas optional canonical
  have fields := fun name =>
    shapes shape (.object (by decide) (by decide) parts) name doc accepted
  -- It is not reported as a mix of types, so the type is that of any number that it accepts.
  have type := (types (.int 7) (by decide) rfl).resolve_left (by decide)
  exact ⟨admits.mpr (.inl (by decide)), type, accepted, (fields "b").1 (by decide),
    (fields "c").2 (by decide)⟩

end Schema

end BsonTable
