import BsonTable.Proofs.Schema.Reading
import BsonTable.Schema.Document

/-! A schema that is written out and read again is the same schema, in the same order. -/

namespace BsonTable

/-- The spelling of a type name stands for that name. -/
theorem TypeName.parse_text (name : TypeName) : TypeName.parse name.text = .ok name := by
  -- No two of the names share a spelling.
  cases name <;> rfl

namespace Schema

/-- A name above all others goes to the end. -/
theorem insertName_of_above {name : String} {names : List String}
    (above : ∀ other ∈ names, other < name) : insertName name names = names ++ [name] := by
  -- The induction goes down the names, all of which are below the new one.
  induction names with
  | nil => rfl
  | cons first rest ih =>
    -- The name is neither before the first one nor the same, so it goes further down.
    have below := above first List.mem_cons_self
    have notBelow : ¬ name < first := String.lt_asymm below
    have different : name ≠ first := (Std.ne_of_lt below).symm
    rw [insertName, if_neg notBelow, if_neg different,
      ih fun other inside => above other (List.mem_cons_of_mem _ inside)]
    rfl

/-- Required names in ascending order are read in that order. -/
theorem readRequired_ascending {names : List String} (ascending : names.Pairwise (· < ·)) :
    readRequired (names.map .string) = .ok names := by
  -- Each name is above those that were read before it.
  have general : ∀ sorted : List String, (sorted ++ names).Pairwise (· < ·) →
      (names.map Value.string).foldlM requireName sorted = .ok (sorted ++ names) := by
    clear ascending
    induction names with
    | nil => simp [Pure.pure, Except.pure]
    | cons name rest ih =>
      intro sorted ascending
      have above : ∀ other ∈ sorted, other < name := fun other inside =>
        (List.pairwise_append.mp ascending).2.2 other inside name List.mem_cons_self
      rw [List.map_cons, List.foldlM_cons]
      simp only [requireName, insertName_of_above above, Bind.bind, Except.bind]
      rw [ih (sorted ++ [name]) (by simpa using ascending)]
      simp
  simpa [readRequired] using general [] (by simpa using ascending)

/-- Properties that are read back one by one are read back as they stand. -/
theorem ofProperties_propertyDocuments {properties : Fields Schema}
    (parts : ∀ property ∈ properties, ofDocument property.2.toDocument = .ok property.2) :
    ofProperties (propertyDocuments properties) = .ok properties := by
  rw [ofProperties_eq_ok_iff]
  -- Writing keeps the order of the properties, so each one is read from its own field.
  induction properties with
  | nil => exact .nil
  | cons property rest ih =>
    obtain ⟨name, schema⟩ := property
    have head := parts (name, schema) List.mem_cons_self
    exact .cons ⟨rfl, schema.toDocument, rfl, head⟩
      (ih fun property inside => parts property (List.mem_cons_of_mem _ inside))

/-- Branches that are read back one by one are read back in order. -/
theorem ofAlternatives_branchDocuments {branches : List Schema}
    (parts : ∀ branch ∈ branches, ofDocument branch.toDocument = .ok branch) :
    ofAlternatives (branchDocuments branches) = .ok branches := by
  -- Branches are written in their order, each as an alternative of its own.
  rw [ofAlternatives_eq_ok_iff]
  induction branches with
  | nil => exact .nil
  | cons branch rest ih =>
    have head := parts branch List.mem_cons_self
    exact .cons ⟨branch.toDocument, rfl, head⟩
      (ih fun branch inside => parts branch (List.mem_cons_of_mem _ inside))

/-- The document of an object whose properties are read back is read as that object. -/
theorem objectOf_toDocument {properties : Fields Schema} {required : List String}
    {additional : Bool} (once : (Fields.keys properties).Nodup)
    (ascending : required.Pairwise (· < ·))
    (parts : ∀ property ∈ properties, ofDocument property.2.toDocument = .ok property.2) :
    objectOf (object properties required additional).toDocument =
      .ok { properties, required, additional } := by
  -- Each part is found under its own keyword, and distinct names keep every property.
  have first : propertiesOf (object properties required additional).toDocument =
      .ok properties := by
    have read := ofProperties_propertyDocuments parts
    rw [propertiesOf_eq]
    simp [toDocument, Fields.get?, read, Fields.ofPairs_of_nodup once, Bind.bind, Except.bind,
      Pure.pure, Except.pure]
  have second : requiredOf (object properties required additional).toDocument = .ok required := by
    simp [requiredOf, toDocument, Fields.get?, textList, readRequired_ascending ascending]
  have third : additionalOf (object properties required additional).toDocument =
      .ok additional := by
    simp [additionalOf, toDocument, Fields.get?]
  rw [objectOf]
  simp [first, second, third, Bind.bind, Except.bind, Pure.pure, Except.pure]

/-- The document of a canonical schema is read as that schema. -/
theorem ofDocument_toDocument {schema : Schema} (canonical : schema.IsCanonical) :
    ofDocument schema.toDocument = .ok schema := by
  -- A node with a type name is read as the union of its one branch, which is that branch.
  have single : ∀ {branch : Schema} (type : TypeName), branch.IsCanonical →
      Fields.get? "bsonType" branch.toDocument = some (.string type.text) →
      Fields.get? "anyOf" branch.toDocument = none →
      ofTypeName type.text branch.toDocument = .ok branch →
      ofDocument branch.toDocument = .ok branch := by
    intro branch type canonical typed unlisted read
    rw [ofDocument_of_typeName typed unlisted read, union_singleton canonical]
  -- The induction is on canonical form, and each case reads what was written for it.
  induction canonical with
  | any =>
    rw [ofDocument, typedBranches, listedBranches]
    rfl
  | @scalar name bare =>
    -- Only documents and arrays look at more than their name.
    refine single name (.scalar bare) rfl rfl ?_
    rw [ofTypeName, TypeName.parse_text]
    cases name <;> first | rfl | simp at bare
  | @object properties required additional once ascending parts ih =>
    refine single .object (.object once ascending parts) rfl rfl ?_
    rw [ofTypeName, TypeName.parse_text]
    simp [objectOf_toDocument once ascending ih, DocumentShape.toSchema, Bind.bind, Except.bind,
      Pure.pure, Except.pure]
  | @array items part ih =>
    refine single .array (.array part) rfl rfl ?_
    have read : itemsOf (array items).toDocument = .ok items := by
      rw [itemsOf_eq]
      simp [toDocument, Fields.get?, ih]
    rw [ofTypeName, TypeName.parse_text]
    simp [read, Bind.bind, Except.bind, Pure.pure, Except.pure]
  | @anyOf branches several distinct flat parts ih =>
    -- A union is written as alternatives alone, and its branches make that union again.
    have first : typedBranches (anyOf branches).toDocument = .ok [] := by
      rw [typedBranches]
      simp [toDocument, Fields.get?]
    have second : listedBranches (anyOf branches).toDocument = .ok branches := by
      have read := ofAlternatives_branchDocuments ih
      rw [listedBranches_eq]
      cases branches with
      | nil => simp at several
      | cons => simpa [toDocument, branchDocuments, Fields.get?] using read
    rw [ofDocument]
    have whole := union_branches (.anyOf several distinct flat parts)
    cases branches with
    | nil => simp at several
    | cons => simp [first, second, whole, Bind.bind, Except.bind, Pure.pure, Except.pure]

/--
Reading a schema brings it into canonical form, and a canonical schema survives being written.

The schema that comes back is equal in every part and in every order, so its document is, too.
-/
theorem simplification_idempotent :
    (∀ (doc : Document) (schema : Schema), ofDocument doc = .ok schema →
      schema.IsCanonical ∧ ofDocument schema.toDocument = .ok schema) ∧
    ∀ schema : Schema, schema.IsCanonical → ofDocument schema.toDocument = .ok schema := by
  constructor
  · -- What is read is canonical, so the second part applies to it.
    intro doc schema read
    have canonical := ofDocument_canonical read
    exact ⟨canonical, ofDocument_toDocument canonical⟩
  · intro schema canonical
    exact ofDocument_toDocument canonical

/-- A node that repeats a type name and nests a union is read as a union of two types. -/
theorem simplification_idempotent_nested :
    ofDocument
        [("bsonType", .array [.string "int", .string "null", .string "int"]),
          ("anyOf", .array
            [.document [("anyOf", .array [.document [("bsonType", .string "int")]])]])] =
      .ok (anyOf [scalar .int, scalar .null]) ∧
    (anyOf [scalar .int, scalar .null]).IsCanonical ∧
    ofDocument (anyOf [scalar .int, scalar .null]).toDocument =
      .ok (anyOf [scalar .int, scalar .null]) := by
  -- Only the first reading is computed; the rest is what the theorem says of it.
  suffices read : ofDocument _ = .ok (anyOf [scalar .int, scalar .null]) from
    ⟨read, (simplification_idempotent.1 _ _ read).1,
      simplification_idempotent.2 _ (simplification_idempotent.1 _ _ read).1⟩
  cbv

end Schema

end BsonTable
