import BsonTable.Proofs.Schema.Canonical
import BsonTable.Schema.Parse
import Mathlib.Data.List.Forall2

/-! What reading a schema document gives: a union of one branch for each name and alternative. -/

namespace BsonTable

/-- A step that is followed by another one succeeds when both do. -/
theorem bind_eq_ok_iff {ε : Type u} {α β : Type v} {step : Except ε α} {next : α → Except ε β}
    {result : β} :
    step >>= next = .ok result ↔ ∃ value, step = .ok value ∧ next value = .ok result := by
  cases step <;> simp [Bind.bind, Except.bind]

/-- Steps on the elements of a list succeed when each one does. -/
theorem mapM_eq_ok_iff {ε : Type u} {α β : Type v} {step : α → Except ε β} {elements : List α}
    {results : List β} :
    elements.mapM step = .ok results ↔
      List.Forall₂ (fun element result => step element = .ok result) elements results := by
  -- The induction is on the list; the results are built up alongside.
  induction elements generalizing results with
  | nil => simp [Pure.pure, Except.pure, eq_comm]
  | cons first rest ih =>
    simp only [List.mapM_cons, bind_eq_ok_iff, ih, List.forall₂_cons_left_iff]
    simp [Pure.pure, Except.pure, eq_comm]

/-- Every result of related lists belongs to one of the elements. -/
theorem exists_of_forall₂ {α : Type u} {β : Type v} {link : α → β → Prop} {left : List α}
    {right : List β} (linked : List.Forall₂ link left right) :
    ∀ y ∈ right, ∃ x ∈ left, link x y := by
  induction linked with
  | nil => simp
  | cons head tail ih =>
    intro y inside
    -- The head belongs to the head, and the rest to the rest.
    rcases List.mem_cons.mp inside with rfl | inside
    · exact ⟨_, List.mem_cons_self, head⟩
    · obtain ⟨x, found, linked⟩ := ih y inside
      exact ⟨x, List.mem_cons_of_mem _ found, linked⟩

/-- A list related to results stays related to them when each element is replaced by a part. -/
theorem forall₂_filterMap {α : Type u} {β : Type v} {γ : Type w} {link : α → β → Prop}
    {link' : γ → β → Prop} {part : α → Option γ} {left : List α} {right : List β}
    (linked : List.Forall₂ link left right)
    (through : ∀ x y, link x y → ∃ z, part x = some z ∧ link' z y) :
    List.Forall₂ link' (left.filterMap part) right := by
  -- No element is dropped, so both lists get longer together.
  induction linked with
  | nil => exact .nil
  | cons head tail ih =>
    obtain ⟨z, found, linked⟩ := through _ _ head
    rw [List.filterMap_cons_some found]
    exact .cons linked ih

namespace Value

/-- The text of a text. -/
def asString? : Value → Option String
  | string text => some text
  | _ => none

/-- The fields of a document. -/
def asDocument? : Value → Option Document
  | document fields => some fields
  | _ => none

end Value

namespace Schema

/-- The type names that a node lists, in order. -/
def typeNamesOf (doc : Document) : List String :=
  -- Entries that are no texts are passed over here, but a node with one is refused.
  match Fields.get? "bsonType" doc with
  | some (.string name) => [name]
  | some (.array names) => names.filterMap Value.asString?
  | _ => []

/-- The alternatives that a node lists, in order. -/
def alternativesOf (doc : Document) : List Document :=
  match Fields.get? "anyOf" doc with
  | some (.array alternatives) => alternatives.filterMap Value.asDocument?
  | _ => []

/-- An alternative is smaller than the node that lists it. -/
theorem sizeOf_lt_of_alternative {doc alternative : Document}
    (inside : alternative ∈ alternativesOf doc) : sizeOf alternative < sizeOf doc := by
  unfold alternativesOf at inside
  split at inside
  · rename_i alternatives found
    obtain ⟨value, member, read⟩ := List.mem_filterMap.mp inside
    cases value <;> simp [Value.asDocument?] at read
    subst read
    -- The node holds the list, and the list holds the alternative.
    have outer := Fields.sizeOf_lt_of_get? found
    have inner := List.sizeOf_lt_of_mem member
    simp only [Value.array.sizeOf_spec, Value.document.sizeOf_spec] at outer inner
    omega
  · simp at inside

/-- The schema of a property is smaller than the node that declares it. -/
theorem sizeOf_lt_of_declared {doc sub : Document} {fields : List (String × Value)} {name : String}
    (found : Fields.get? "properties" doc = some (.document fields))
    (inside : (name, .document sub) ∈ fields) : sizeOf sub < sizeOf doc := by
  -- The node holds the properties, and these hold the schema.
  have outer := Fields.sizeOf_lt_of_get? found
  have inner := List.sizeOf_lt_of_mem inside
  simp only [Value.document.sizeOf_spec, Prod.mk.sizeOf_spec] at outer inner
  omega

/-- Alternatives are read one by one, and each of them is a document. -/
theorem ofAlternatives_eq_ok_iff {alternatives : List Value} {branches : List Schema} :
    ofAlternatives alternatives = .ok branches ↔
      List.Forall₂ (fun alternative branch => ∃ doc, alternative = .document doc ∧
        ofDocument doc = .ok branch) alternatives branches := by
  -- The reader goes down the list, and stops at what is no document.
  induction alternatives generalizing branches with
  | nil => simp [ofAlternatives, eq_comm]
  | cons first rest ih =>
    rw [List.forall₂_cons_left_iff]
    cases first with
    | document doc =>
      rw [ofAlternatives]
      simp only [bind_eq_ok_iff, ih]
      simp [Pure.pure, Except.pure, eq_comm]
    | _ => simp [ofAlternatives, unexpected, malformed]

/-- Properties are read one by one under their names, and each of them is a document. -/
theorem ofProperties_eq_ok_iff {fields : List (String × Value)} {properties : Fields Schema} :
    ofProperties fields = .ok properties ↔
      List.Forall₂ (fun field property => property.1 = field.1 ∧ ∃ doc, field.2 = .document doc ∧
        ofDocument doc = .ok property.2) fields properties := by
  -- The reader goes down the fields, and keeps each name beside its schema.
  induction fields generalizing properties with
  | nil => simp [ofProperties, eq_comm]
  | cons first rest ih =>
    obtain ⟨name, value⟩ := first
    rw [List.forall₂_cons_left_iff]
    cases value with
    | document doc =>
      rw [ofProperties]
      simp only [bind_eq_ok_iff, ih]
      simp [Pure.pure, Except.pure, eq_comm]
    | _ => simp [ofProperties, malformed]

/-- The properties of a node are looked up under their keyword. -/
theorem propertiesOf_eq (doc : Document) :
    propertiesOf doc = match Fields.get? "properties" doc with
      | none => .ok []
      | some (.document fields) => do return Fields.ofPairs (← ofProperties fields)
      | some other => unexpected "properties must be a document" other := by
  -- The definition matches on the look-up together with its result, which is forgotten here.
  rw [propertiesOf]
  split <;> simp_all

/-- The items of a node are looked up under their keyword. -/
theorem itemsOf_eq (doc : Document) :
    itemsOf doc = match Fields.get? "items" doc with
      | none => .ok any
      | some (.document items) => ofDocument items
      | some (.array _) => .ok any
      | some other => unexpected "items must be a schema or a list of schemas" other := by
  rw [itemsOf]
  split <;> simp_all

/-- The alternatives of a node are looked up under their keyword. -/
theorem listedBranches_eq (doc : Document) :
    listedBranches doc = match Fields.get? "anyOf" doc with
      | none => .ok []
      | some (.array []) => malformed "anyOf list is empty"
      | some (.array alternatives) => ofAlternatives alternatives
      | some other => unexpected "anyOf must be a list" other := by
  rw [listedBranches]
  split <;> simp_all

/-- The keywords that a type name makes use of. -/
def typeKeywords : List String :=
  ["properties", "required", "additionalProperties", "items"]

/-- The branch of a type name depends on its keywords only. -/
theorem ofTypeName_congr {doc other : Document}
    (agree : ∀ key ∈ typeKeywords, Fields.get? key doc = Fields.get? key other) (name : String) :
    ofTypeName name doc = ofTypeName name other := by
  -- Every part of the branch is looked up under one of these keywords.
  have properties : propertiesOf doc = propertiesOf other := by
    rw [propertiesOf_eq, propertiesOf_eq, agree "properties" (by simp [typeKeywords])]
  have items : itemsOf doc = itemsOf other := by
    rw [itemsOf_eq, itemsOf_eq, agree "items" (by simp [typeKeywords])]
  have required : requiredOf doc = requiredOf other := by
    rw [requiredOf, requiredOf, agree "required" (by simp [typeKeywords])]
  have additional : additionalOf doc = additionalOf other := by
    rw [additionalOf, additionalOf, agree "additionalProperties" (by simp [typeKeywords])]
  rw [ofTypeName, ofTypeName, objectOf, objectOf, properties, items, required, additional]

/-- A node with one type name and no alternatives is the branch of that name. -/
theorem ofDocument_of_typeName {doc : Document} {name : String} {branch : Schema}
    (typed : Fields.get? "bsonType" doc = some (.string name))
    (unlisted : Fields.get? "anyOf" doc = none) (read : ofTypeName name doc = .ok branch) :
    ofDocument doc = .ok (union [branch]) := by
  -- The name gives one branch and the missing alternatives give none.
  have first : typedBranches doc = .ok [branch] := by
    rw [typedBranches]
    simp [typed, read, Bind.bind, Except.bind, Pure.pure, Except.pure]
  have second : listedBranches doc = .ok [] := by
    rw [listedBranches_eq, unlisted]
  rw [ofDocument]
  simp [first, second, Bind.bind, Except.bind, Pure.pure, Except.pure]

/-- Type names that are read one by one are all texts, and so are found as texts. -/
theorem typedBranches_ok {doc : Document} {branches : List Schema}
    (read : typedBranches doc = .ok branches) :
    List.Forall₂ (fun name branch => ofTypeName name doc = .ok branch)
      (typeNamesOf doc) branches := by
  -- Five forms of the keyword, of which two are refused.
  rw [typedBranches] at read
  split at read
  · rename_i found
    cases read
    simp [typeNamesOf, found]
  · rename_i name found
    obtain ⟨branch, first, last⟩ := bind_eq_ok_iff.mp read
    cases last
    simp [typeNamesOf, found, first]
  · simp [malformed] at read
  · rename_i names _ found
    simp only [typeNamesOf, found]
    apply forall₂_filterMap (mapM_eq_ok_iff.mp read)
    intro value branch link
    -- What is no text fails at once.
    cases value with
    | string name => exact ⟨name, rfl, link⟩
    | _ => simp [unexpected, malformed] at link
  · simp [unexpected, malformed] at read

/-- The listed branches of a node belong to its alternatives, one by one. -/
theorem listedBranches_ok {doc : Document} {branches : List Schema}
    (read : listedBranches doc = .ok branches) :
    List.Forall₂ (fun alternative branch => ofDocument alternative = .ok branch)
      (alternativesOf doc) branches := by
  -- As for types, where every alternative is a document by what was read.
  rw [listedBranches_eq] at read
  split at read
  · rename_i found
    cases read
    simp [alternativesOf, found]
  · simp [malformed] at read
  · rename_i alternatives _ found
    simp only [alternativesOf, found]
    apply forall₂_filterMap (ofAlternatives_eq_ok_iff.mp read)
    intro value branch step
    obtain ⟨alternative, rfl, link⟩ := step
    exact ⟨alternative, rfl, link⟩
  · simp [unexpected, malformed] at read

/-- A node that says what types it has has a typed branch. -/
theorem typedBranches_ne_nil {doc : Document} {branches : List Schema}
    (read : typedBranches doc = .ok branches) (present : (Fields.get? "bsonType" doc).isSome) :
    branches ≠ [] := by
  intro empty
  subst empty
  -- Where the keyword is there, a failure is excluded and a list has at least one entry.
  rw [typedBranches] at read
  split at read
  · simp_all
  · obtain ⟨branch, _, last⟩ := bind_eq_ok_iff.mp read
    cases last
  · simp [malformed] at read
  · -- An empty list of names was refused before.
    rename_i nonempty _
    exact nonempty (List.forall₂_nil_right_iff.mp (mapM_eq_ok_iff.mp read))
  · simp [unexpected, malformed] at read

/-- A node that lists alternatives has a listed branch. -/
theorem listedBranches_ne_nil {doc : Document} {branches : List Schema}
    (read : listedBranches doc = .ok branches) (present : (Fields.get? "anyOf" doc).isSome) :
    branches ≠ [] := by
  intro empty
  subst empty
  -- The same for alternatives.
  rw [listedBranches_eq] at read
  split at read
  · simp_all
  · simp [malformed] at read
  · -- An empty list of alternatives was refused before.
    rename_i nonempty _
    exact nonempty (List.forall₂_nil_right_iff.mp (ofAlternatives_eq_ok_iff.mp read))
  · simp [unexpected, malformed] at read

/-- The properties of a node have distinct names, and each of them was declared. -/
theorem propertiesOf_ok {doc : Document} {properties : Fields Schema}
    (read : propertiesOf doc = .ok properties) :
    (Fields.keys properties).Nodup ∧
      ∀ property ∈ properties, ∃ fields sub,
        Fields.get? "properties" doc = some (.document fields) ∧
        (property.1, .document sub) ∈ fields ∧ ofDocument sub = .ok property.2 := by
  -- The properties come from a document, if there are any.
  rw [propertiesOf_eq] at read
  split at read
  · cases read
    simp [Fields.keys]
  · rename_i fields found
    obtain ⟨pairs, first, last⟩ := bind_eq_ok_iff.mp read
    cases last
    refine ⟨Fields.nodup_keys_ofPairs pairs, ?_⟩
    intro property inside
    -- What is kept of the pairs is one of them, and each pair was read from a field.
    obtain ⟨field, member, named, sub, same, link⟩ := exists_of_forall₂
      (ofProperties_eq_ok_iff.mp first) property (Fields.mem_of_mem_ofPairs inside)
    rw [named]
    exact ⟨fields, sub, found, same ▸ member, link⟩
  · simp [unexpected, malformed] at read

/-- Nothing is among the names after adding one but that name and the names before. -/
theorem mem_of_mem_insertName {name other : String} {names : List String}
    (inside : other ∈ insertName name names) : other = name ∨ other ∈ names := by
  -- The name takes the place of an equal one, or stands between two others.
  induction names with
  | nil => exact .inl (List.mem_singleton.mp inside)
  | cons first rest ih =>
    rw [insertName] at inside
    split at inside
    · exact (List.mem_cons.mp inside)
    · split at inside
      · exact .inr inside
      · rcases List.mem_cons.mp inside with rfl | inside
        · exact .inr List.mem_cons_self
        · exact (ih inside).imp_right (List.mem_cons_of_mem _)

/-- Adding a name keeps names in ascending order. -/
theorem insertName_ascending {name : String} {names : List String}
    (ascending : names.Pairwise (· < ·)) : (insertName name names).Pairwise (· < ·) := by
  -- The name goes before the first greater one.
  induction names with
  | nil => exact List.pairwise_singleton _ _
  | cons first rest ih =>
    obtain ⟨least, ordered⟩ := List.pairwise_cons.mp ascending
    rw [insertName]
    split
    · rename_i below
      refine List.pairwise_cons.mpr ⟨?_, ascending⟩
      intro other inside
      rcases List.mem_cons.mp inside with rfl | inside
      · exact below
      · exact String.lt_trans below (least other inside)
    · split
      · exact ascending
      · rename_i notBelow different
        have above : first < name := Std.lt_of_le_of_ne notBelow (Ne.symm different)
        refine List.pairwise_cons.mpr ⟨?_, ih ordered⟩
        intro other inside
        rcases mem_of_mem_insertName inside with rfl | inside
        · exact above
        · exact least other inside

/-- The required names of a node are in ascending order. -/
theorem requiredOf_ascending {doc : Document} {names : List String}
    (read : requiredOf doc = .ok names) : names.Pairwise (· < ·) := by
  -- The names are added one by one, so the ones so far stay quantified over.
  have general : ∀ (values : List Value) (sorted : List String), sorted.Pairwise (· < ·) →
      values.foldlM requireName sorted = .ok names → names.Pairwise (· < ·) := by
    intro values
    induction values with
    | nil =>
      intro sorted ascending read
      cases read
      exact ascending
    | cons value rest ih =>
      intro sorted ascending read
      rw [List.foldlM_cons] at read
      obtain ⟨next, step, read⟩ := bind_eq_ok_iff.mp read
      cases value with
      | string name =>
        cases step
        exact ih _ (insertName_ascending ascending) read
      | _ => simp [requireName, unexpected, malformed] at step
  unfold requiredOf at read
  split at read
  · cases read
    exact .nil
  · exact general _ [] .nil read
  · simp [unexpected, malformed] at read

/-- A node that is read is the union of its branches, or has none and says what its parts say. -/
theorem ofDocument_ok {doc : Document} {schema : Schema} (read : ofDocument doc = .ok schema) :
    ∃ typed listed, typedBranches doc = .ok typed ∧ listedBranches doc = .ok listed ∧
      (typed ++ listed ≠ [] ∧ schema = union (typed ++ listed) ∨
        typed ++ listed = [] ∧
          (schema = any ∨ ∃ shape, objectOf doc = .ok shape ∧ schema = shape.toSchema)) := by
  -- Both kinds of branches are read first, and then it depends on whether there are any.
  rw [ofDocument] at read
  obtain ⟨typed, first, read⟩ := bind_eq_ok_iff.mp read
  obtain ⟨listed, second, read⟩ := bind_eq_ok_iff.mp read
  refine ⟨typed, listed, first, second, ?_⟩
  split at read
  · -- Without a branch, only keywords for documents say anything.
    rename_i empty
    split at read
    · obtain ⟨shape, third, last⟩ := bind_eq_ok_iff.mp read
      cases last
      exact .inr ⟨empty, .inr ⟨shape, third, rfl⟩⟩
    · cases read
      exact .inr ⟨empty, .inl rfl⟩
  · rename_i nonempty
    cases read
    exact .inl ⟨nonempty, rfl⟩

/-- The schema of a document node is canonical if those of its properties are. -/
theorem objectOf_canonical {doc : Document} {shape : DocumentShape}
    (read : objectOf doc = .ok shape)
    (smaller : ∀ sub : Document, sizeOf sub < sizeOf doc →
      ∀ schema, ofDocument sub = .ok schema → schema.IsCanonical) :
    shape.toSchema.IsCanonical := by
  -- The parts are read in turn, and the schema is made of what each of them gives.
  rw [objectOf] at read
  obtain ⟨properties, first, read⟩ := bind_eq_ok_iff.mp read
  obtain ⟨required, second, read⟩ := bind_eq_ok_iff.mp read
  obtain ⟨additional, third, last⟩ := bind_eq_ok_iff.mp read
  cases last
  obtain ⟨once, declared⟩ := propertiesOf_ok first
  refine .object once (requiredOf_ascending second) ?_
  intro property inside
  -- Each property is read from a smaller node below this one.
  obtain ⟨fields, sub, found, member, link⟩ := declared property inside
  exact smaller sub (sizeOf_lt_of_declared found member) _ link

/-- The schema of the elements of a node is canonical if that of its items is. -/
theorem itemsOf_canonical {doc : Document} {schema : Schema} (read : itemsOf doc = .ok schema)
    (smaller : ∀ sub : Document, sizeOf sub < sizeOf doc →
      ∀ schema, ofDocument sub = .ok schema → schema.IsCanonical) :
    schema.IsCanonical := by
  -- Only a schema for all items says something about them.
  rw [itemsOf_eq] at read
  split at read
  · cases read
    exact .any
  · rename_i items found
    have size := Fields.sizeOf_lt_of_get? found
    simp only [Value.document.sizeOf_spec] at size
    exact smaller items (by omega) schema read
  · cases read
    exact .any
  · simp [unexpected, malformed] at read

/-- The branch of a type name is canonical if the nodes below are. -/
theorem ofTypeName_canonical {name : String} {doc : Document} {schema : Schema}
    (read : ofTypeName name doc = .ok schema)
    (smaller : ∀ sub : Document, sizeOf sub < sizeOf doc →
      ∀ schema, ofDocument sub = .ok schema → schema.IsCanonical) :
    schema.IsCanonical := by
  rw [ofTypeName] at read
  obtain ⟨type, first, read⟩ := bind_eq_ok_iff.mp read
  -- Documents and arrays look at their parts, and every other name stands alone.
  split at read
  · obtain ⟨shape, second, last⟩ := bind_eq_ok_iff.mp read
    cases last
    exact objectOf_canonical second smaller
  · obtain ⟨items, second, last⟩ := bind_eq_ok_iff.mp read
    cases last
    exact .array (itemsOf_canonical second smaller)
  · rename_i notObject notArray
    cases read
    exact .scalar ⟨notObject, notArray⟩

/-- A schema that is read from a document is canonical. -/
theorem ofDocument_canonical {doc : Document} {schema : Schema}
    (read : ofDocument doc = .ok schema) : schema.IsCanonical := by
  -- Every node is read from smaller nodes, and a union of canonical branches is canonical.
  induction size : sizeOf doc using Nat.strongRecOn generalizing doc schema with
  | ind size ih =>
    subst size
    have smaller : ∀ sub : Document, sizeOf sub < sizeOf doc →
        ∀ schema, ofDocument sub = .ok schema → schema.IsCanonical :=
      fun sub small schema read => ih _ small read rfl
    obtain ⟨typed, listed, first, second, branched | ⟨_, whole⟩⟩ := ofDocument_ok read
    · obtain ⟨_, rfl⟩ := branched
      apply union_canonical
      intro branch inside
      rcases List.mem_append.mp inside with inside | inside
      · obtain ⟨name, _, link⟩ := exists_of_forall₂ (typedBranches_ok first) branch inside
        exact ofTypeName_canonical link smaller
      · obtain ⟨alternative, member, link⟩ :=
          exists_of_forall₂ (listedBranches_ok second) branch inside
        exact smaller alternative (sizeOf_lt_of_alternative member) branch link
    · rcases whole with rfl | ⟨shape, third, rfl⟩
      · exact .any
      · exact objectOf_canonical third smaller

end Schema

end BsonTable
