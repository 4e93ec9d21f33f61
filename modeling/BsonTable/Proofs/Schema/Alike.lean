import BsonTable.Proofs.Schema.Leaves
import Mathlib.Data.List.Sort

/-! Nodes whose keywords say the same are read together, as schemas that are the same. -/

namespace BsonTable

namespace Schema

section Lists

/-- Read a value as a schema. -/
def readAlternative : Value → Except Error Schema
  | .document doc => ofDocument doc
  | other => unexpected "anyOf entries must be schemas" other

/-- Read the branch of a value that names a type, with the keywords of a node. -/
def readName (doc : Document) : Value → Except Error Schema
  | .string name => ofTypeName name doc
  | other => unexpected "bsonType entries must be strings" other

/-- Read a property under its name. -/
def readProperty : String × Value → Except Error (String × Schema)
  | (name, .document doc) => do return (name, ← ofDocument doc)
  | (name, _) => malformed s!"property '{name}' is not a schema"

/-- Alternatives are read one by one. -/
theorem ofAlternatives_eq_mapM (alternatives : List Value) :
    ofAlternatives alternatives = alternatives.mapM readAlternative := by
  -- Both stop at the first alternative that is no schema, with the same complaint.
  induction alternatives with
  | nil => simp [ofAlternatives, Pure.pure, Except.pure]
  | cons first rest ih =>
    rw [List.mapM_cons, ← ih]
    cases first with
    | document doc => rw [ofAlternatives, readAlternative]
    | _ => simp [ofAlternatives, readAlternative, unexpected, malformed, Bind.bind, Except.bind]

/-- Properties are read one by one. -/
theorem ofProperties_eq_mapM (fields : List (String × Value)) :
    ofProperties fields = fields.mapM readProperty := by
  -- As for alternatives, with the name of the property in the complaint.
  induction fields with
  | nil => simp [ofProperties, Pure.pure, Except.pure]
  | cons first rest ih =>
    rw [List.mapM_cons, ← ih]
    obtain ⟨name, value⟩ := first
    cases value with
    | document doc =>
      rw [ofProperties, readProperty]
      simp
    | _ => simp [ofProperties, readProperty, malformed, Bind.bind, Except.bind]

/-- The type names of a node are looked up under their keyword, and read one by one. -/
theorem typedBranches_eq (doc : Document) :
    typedBranches doc = match Fields.get? "bsonType" doc with
      | none => .ok []
      | some (.string name) => do return [← ofTypeName name doc]
      | some (.array []) => malformed "bsonType list is empty"
      | some (.array names) => names.mapM (readName doc)
      | some other => unexpected "bsonType must be a string or a list of strings" other := by
  -- The reader is rewritten with the reading of one name, case by case.
  rw [typedBranches]
  split <;> simp_all
  rfl

/-- The schema of a node with some branches, or of one with none, which its parts tell. -/
def ofBranches (doc : Document) : List Schema → Except Error Schema
  | [] =>
    if (Fields.get? "properties" doc).isSome then do return (← objectOf doc).toSchema
    else return any
  | branches => return union branches

/-- A node is read from its branches of both kinds. -/
theorem ofDocument_eq (doc : Document) :
    ofDocument doc = typedBranches doc >>= fun typed =>
      listedBranches doc >>= fun listed => ofBranches doc (typed ++ listed) := by
  rw [ofDocument]
  rfl

end Lists

/-- A keyword that says something about a node. -/
inductive Keyword where
  | bsonType
  | anyOf
  | properties
  | required
  | additionalProperties
  | items

/-- The spelling of a keyword. -/
def Keyword.text : Keyword → String
  | bsonType => "bsonType"
  | anyOf => "anyOf"
  | properties => "properties"
  | required => "required"
  | additionalProperties => "additionalProperties"
  | items => "items"

/-- Properties of one name whose schemas coincide. -/
structure Declared (left right : String × Schema) : Prop where
  name : left.1 = right.1
  schema : Coincide left.2 right.2

/-- Two values of a keyword, present or not, that say the same about a node. -/
inductive SayAlike : Keyword → Option Value → Option Value → Prop
  -- What is the same says the same, whether it has a form that the grammar allows or not.
  | same (keyword : Keyword) (value : Option Value) : SayAlike keyword value value
  /-- Type names are listed in any order and any number of times. -/
  | names {left right : List Value} (same : ∀ value, value ∈ left ↔ value ∈ right) :
      SayAlike .bsonType (some (.array left)) (some (.array right))
  /-- So are required names. -/
  | required {left right : List Value} (same : ∀ value, value ∈ left ↔ value ∈ right) :
      SayAlike .required (some (.array left)) (some (.array right))
  /-- Alternatives are listed with the same leaves. -/
  | alternatives {left right : List Value} (present : left ≠ [] ∧ right ≠ [])
      (agree : Agree SameLeaves (ofAlternatives left) (ofAlternatives right)) :
      SayAlike .anyOf (some (.array left)) (some (.array right))
  /-- Properties are declared in any order. -/
  | properties {left right : Document} (once : (Fields.keys left).Nodup ∧ (Fields.keys right).Nodup)
      (matched : Matched (fun x y => Agree Declared (readProperty x) (readProperty y)) left right) :
      SayAlike .properties (some (.document left)) (some (.document right))
  | items {left right : Document} (agree : Agree Coincide (ofDocument left) (ofDocument right)) :
      SayAlike .items (some (.document left)) (some (.document right))
  /-- Items by position are not told apart. -/
  | positions (left right : List Value) :
      SayAlike .items (some (.array left)) (some (.array right))
  /-- Any schema for undeclared fields allows them. -/
  | additional (left right : Document) :
      SayAlike .additionalProperties (some (.document left)) (some (.document right))

/-- Two nodes whose keywords say the same. -/
def NodesAlike (left right : Document) : Prop :=
  -- What other keys a node has does not matter, and neither does their order.
  ∀ keyword : Keyword,
    SayAlike keyword (Fields.get? keyword.text left) (Fields.get? keyword.text right)

section Required

/-- Adding a name adds that name and nothing else. -/
theorem mem_insertName {name other : String} {names : List String} :
    other ∈ insertName name names ↔ other = name ∨ other ∈ names := by
  refine ⟨mem_of_mem_insertName, ?_⟩
  intro either
  -- The name is put in where it belongs in the order, unless it is there already.
  induction names with
  | nil => simpa [insertName] using either
  | cons first rest ih =>
    rw [insertName]
    split
    · exact List.mem_cons.mpr either
    · split
      · rename_i same
        rcases either with rfl | inside
        · rw [same]
          exact List.mem_cons_self
        · exact inside
      · rcases either with rfl | inside
        · exact List.mem_cons_of_mem _ (ih (.inl rfl))
        · rcases List.mem_cons.mp inside with rfl | inside
          · exact List.mem_cons_self
          · exact List.mem_cons_of_mem _ (ih (.inr inside))

/-- Names are required one by one, as long as each entry is one. -/
theorem foldlM_requireName {values : List Value}
    (texts : ∀ value ∈ values, ∃ name, value = .string name) (sorted : List String) :
    ∃ names, values.foldlM requireName sorted = .ok names ∧
      ∀ name, name ∈ names ↔ name ∈ sorted ∨ .string name ∈ values := by
  -- The names are added one by one, so the ones so far stay quantified over.
  induction values generalizing sorted with
  | nil => exact ⟨sorted, rfl, by simp⟩
  | cons first rest ih =>
    obtain ⟨text, rfl⟩ := texts first List.mem_cons_self
    obtain ⟨names, read, members⟩ :=
      ih (fun value inside => texts value (List.mem_cons_of_mem _ inside)) (insertName text sorted)
    refine ⟨names, read, ?_⟩
    intro name
    rw [members, mem_insertName, List.mem_cons, Value.string.injEq]
    tauto

/-- Only entries that are names can be required. -/
theorem texts_of_foldlM_requireName {values : List Value} {sorted names : List String}
    (read : values.foldlM requireName sorted = .ok names) :
    ∀ value ∈ values, ∃ name, value = .string name := by
  -- The induction is on the entries, with the names that were required before them.
  induction values generalizing sorted with
  | nil => simp
  | cons first rest ih =>
    rw [List.foldlM_cons] at read
    obtain ⟨next, step, read⟩ := bind_eq_ok_iff.mp read
    intro value inside
    rcases List.mem_cons.mp inside with rfl | inside
    · cases value with
      | string name => exact ⟨name, rfl⟩
      -- Any other entry is where the reading stops.
      | _ => simp [requireName, unexpected, malformed] at step
    · exact ih read value inside

/-- Required names are read the same from any list of the same entries. -/
theorem readRequired_agree {left right : List Value}
    (same : ∀ value, value ∈ left ↔ value ∈ right) :
    Agree Eq (readRequired left) (readRequired right) := by
  -- Success depends on which entries there are, and the same ones are on both sides.
  have succeeds : ∀ {left right : List Value}, (∀ value, value ∈ left ↔ value ∈ right) →
      (∃ names, readRequired left = .ok names) → ∃ names, readRequired right = .ok names := by
    rintro left right same ⟨names, read⟩
    have texts := texts_of_foldlM_requireName read
    obtain ⟨names', read', _⟩ :=
      foldlM_requireName (fun value inside => texts value ((same value).mpr inside)) []
    exact ⟨names', read'⟩
  refine .of_succeeds ⟨succeeds same, succeeds fun value => (same value).symm⟩ ?_
  -- Both results are in ascending order, so they are equal when they have the same names.
  have reads : ∀ {values names}, readRequired values = .ok names →
      names.Pairwise (· < ·) ∧ ∀ name, name ∈ names ↔ .string name ∈ values := by
    intro values names read
    have listed : requiredOf [("required", .array values)] = .ok names := read
    obtain ⟨names', read', members⟩ := foldlM_requireName (texts_of_foldlM_requireName read) []
    cases read.symm.trans read'
    exact ⟨requiredOf_ascending listed, by simpa using members⟩
  intro names names' read read'
  obtain ⟨ascending, members⟩ := reads read
  obtain ⟨ascending', members'⟩ := reads read'
  refine ascending.eq_of_mem_iff ascending' ?_
  intro name
  rw [members, members', same]

end Required

section Nodes

/-- Whatever is read below a node is canonical. -/
theorem below_canonical (doc : Document) : ∀ sub : Document, sizeOf sub < sizeOf doc →
    ∀ schema, ofDocument sub = .ok schema → schema.IsCanonical :=
  fun _ _ _ read => ofDocument_canonical read

variable {left right : Document}

/-- Alike nodes require the same names. -/
theorem NodesAlike.required (alike : NodesAlike left right) :
    Agree Eq (requiredOf left) (requiredOf right) := by
  -- Both lists are looked up, and what they say alike is taken case by case.
  have say : SayAlike .required (Fields.get? "required" left) (Fields.get? "required" right) :=
    alike .required
  unfold requiredOf
  generalize Fields.get? "required" left = value, Fields.get? "required" right = value' at say
  cases say with
  | same => exact .refl fun _ _ => rfl
  | required same => exact readRequired_agree same

/-- Alike nodes allow undeclared fields together. -/
theorem NodesAlike.additional (alike : NodesAlike left right) :
    Agree Eq (additionalOf left) (additionalOf right) := by
  -- Only schemas can differ here, and no schema is looked at.
  have say : SayAlike .additionalProperties (Fields.get? "additionalProperties" left)
    (Fields.get? "additionalProperties" right) := alike .additionalProperties
  unfold additionalOf
  generalize Fields.get? "additionalProperties" left = value,
    Fields.get? "additionalProperties" right = value' at say
  cases say with
  | same => exact .refl fun _ _ => rfl
  | additional => exact .ok rfl

/-- Alike nodes have items that coincide. -/
theorem NodesAlike.items (alike : NodesAlike left right) :
    Agree Coincide (itemsOf left) (itemsOf right) := by
  -- Items that say alike are the same, or both schemas, or both listed by position.
  have say : SayAlike .items (Fields.get? "items" left) (Fields.get? "items" right) :=
    alike .items
  generalize first : Fields.get? "items" left = value at say
  generalize second : Fields.get? "items" right = value' at say
  have reads := itemsOf_eq left
  have reads' := itemsOf_eq right
  rw [first] at reads
  rw [second] at reads'
  cases say with
  | same =>
    rw [reads'.trans reads.symm]
    exact .refl fun _ read => .refl (itemsOf_canonical read (below_canonical left))
  | items agree =>
    rw [reads, reads']
    exact agree
  | positions =>
    -- Items that are listed by position are not looked at.
    rw [reads, reads']
    exact .ok (.refl .any)

/-- Properties under distinct names that find coinciding schemas by name. -/
structure SameProperties (left right : Fields Schema) : Prop where
  first : (Fields.keys left).Nodup
  second : (Fields.keys right).Nodup
  found : ∀ name, SameFound (Fields.get? name left) (Fields.get? name right)

/-- Matching properties under distinct names are found alike. -/
theorem SameProperties.of_matched {properties properties' : Fields Schema}
    (first : (Fields.keys properties).Nodup) (second : (Fields.keys properties').Nodup)
    (matched : Matched Declared properties properties') :
    SameProperties properties properties' := by
  obtain ⟨forth, back⟩ := matched
  -- A property that one side finds by name has its partner on the other side.
  refine ⟨first, second, ?_⟩
  intro name
  cases found : Fields.get? name properties with
  | some schema =>
    obtain ⟨⟨name', schema'⟩, member, declared⟩ := forth _ (Fields.mem_of_get? found)
    obtain rfl : name = name' := declared.name
    rw [Fields.get?_of_mem second member]
    exact .some declared.schema.same
  | none =>
    -- A name that only the right side had would match one on the left.
    have absent : Fields.get? name properties' = none := by
      rw [Fields.get?_eq_none_iff] at found ⊢
      intro inside
      obtain ⟨property, member, rfl⟩ := List.mem_map.mp inside
      obtain ⟨other, member', declared⟩ := back property member
      exact found (List.mem_map.mpr ⟨other, member', declared.name⟩)
    rw [absent]
    exact .none

/-- Properties keep their names when they are read. -/
theorem ofProperties_keys {fields : Document} {properties : Fields Schema}
    (read : ofProperties fields = .ok properties) :
    Fields.keys properties = Fields.keys fields := by
  -- Each property is read under the name that it is declared with.
  have named : List.Forall₂ (fun property field => property.1 = field.1) properties fields :=
    ((ofProperties_eq_ok_iff.mp read).imp fun _ _ link => link.1).flip
  clear read
  induction named with
  | nil => rfl
  | cons head tail ih =>
    rw [Fields.keys, Fields.keys, List.map_cons, List.map_cons, head]
    exact congrArg _ ih

/-- Alike nodes declare the same properties. -/
theorem NodesAlike.properties (alike : NodesAlike left right) :
    Agree SameProperties (propertiesOf left) (propertiesOf right) := by
  -- The properties are the same, or matched in any order.
  have say : SayAlike .properties (Fields.get? "properties" left)
    (Fields.get? "properties" right) := alike .properties
  generalize first : Fields.get? "properties" left = value at say
  generalize second : Fields.get? "properties" right = value' at say
  have reads := propertiesOf_eq left
  have reads' := propertiesOf_eq right
  rw [first] at reads
  rw [second] at reads'
  cases say with
  | same =>
    -- The same declarations are read the same, under names that are distinct.
    rw [reads'.trans reads.symm]
    refine .refl ?_
    intro properties read
    obtain ⟨once, declared⟩ := propertiesOf_ok read
    refine .of_matched once once ⟨?_, ?_⟩ <;> intro property inside
    all_goals
      obtain ⟨_, sub, _, _, read⟩ := declared property inside
      exact ⟨property, inside, rfl, .refl (ofDocument_canonical read)⟩
  | @properties fields fields' once matched =>
    rw [reads, reads']
    have agree := Agree.mapM matched
    rw [← ofProperties_eq_mapM, ← ofProperties_eq_mapM] at agree
    have kept : Agree (fun pairs pairs' => SameProperties (Fields.ofPairs pairs)
        (Fields.ofPairs pairs')) (ofProperties fields) (ofProperties fields') := by
      refine agree.imp ?_
      intro pairs pairs' read read' matched
      -- The names are as distinct as in the declarations, so every property is kept.
      have first : (Fields.keys pairs).Nodup := ofProperties_keys read ▸ once.1
      have second : (Fields.keys pairs').Nodup := ofProperties_keys read' ▸ once.2
      rw [Fields.ofPairs_of_nodup first, Fields.ofPairs_of_nodup second]
      exact .of_matched first second matched
    exact kept.bind fun _ _ same => .ok same

/-- Alike nodes have the same parts as documents. -/
theorem NodesAlike.object (alike : NodesAlike left right) :
    Agree (fun shape shape' => Coincide shape.toSchema shape'.toSchema) (objectOf left)
      (objectOf right) := by
  have agree : Agree (fun shape shape' => shape.toSchema.same shape'.toSchema = true)
      (objectOf left) (objectOf right) := by
    -- The parts are read one after another, and each of them agrees.
    rw [objectOf, objectOf]
    refine alike.properties.bind fun properties properties' declared => ?_
    refine alike.required.bind fun required required' names => ?_
    refine alike.additional.bind fun additional additional' allowed => ?_
    exact .ok ((same_object_iff declared.first declared.second).mpr
      ⟨declared.found, names, allowed⟩)
  exact agree.imp fun shape shape' read read' same =>
    ⟨objectOf_canonical read (below_canonical left),
      objectOf_canonical read' (below_canonical right), same⟩

/-- Alike nodes have coinciding branches of one type name. -/
theorem NodesAlike.typeName (alike : NodesAlike left right) (name : String) :
    Agree Coincide (ofTypeName name left) (ofTypeName name right) := by
  have agree : Agree (fun schema schema' => schema.same schema' = true)
      (ofTypeName name left) (ofTypeName name right) := by
    rw [ofTypeName, ofTypeName]
    have parsed : Agree Eq (TypeName.parse name) (TypeName.parse name) := .refl fun _ _ => rfl
    refine parsed.bind ?_
    rintro type _ rfl
    -- Only documents and arrays have parts, and every other type is its name.
    split
    · exact alike.object.bind fun _ _ coincide => .ok coincide.same
    · refine alike.items.bind fun _ _ coincide => .ok ?_
      rw [same]
      exact coincide.same
    · exact .ok (by simp [same])
  exact agree.imp fun schema schema' read read' same =>
    ⟨ofTypeName_canonical read (below_canonical left),
      ofTypeName_canonical read' (below_canonical right), same⟩

/-- Alike nodes have type names whose branches have the same leaves. -/
theorem NodesAlike.typed (alike : NodesAlike left right) :
    Agree SameLeaves (typedBranches left) (typedBranches right) := by
  -- The names may differ in number, so only the leaves of their branches correspond.
  have named : ∀ value, Agree Coincide (readName left value) (readName right value) := by
    intro value
    cases value with
    | string name => exact alike.typeName name
    | _ => exact .error _ _
  have say : SayAlike .bsonType (Fields.get? "bsonType" left) (Fields.get? "bsonType" right) :=
    alike .bsonType
  have listed : ∀ {names names' : List Value}, (∀ value, value ∈ names ↔ value ∈ names') →
      Agree SameLeaves (names.mapM (readName left)) (names'.mapM (readName right)) := by
    intro names names' same
    exact SameLeaves.mapM (.of_mem_iff named same)
  rw [typedBranches_eq, typedBranches_eq]
  generalize Fields.get? "bsonType" left = value, Fields.get? "bsonType" right = value' at say
  cases say with
  | same =>
    split
    · -- Without the keyword there are no branches.
      exact .ok (.refl fun _ none => absurd none List.not_mem_nil)
    · rename_i name
      refine (alike.typeName name).bind fun branch branch' coincide => .ok (.of_matched ?_)
      simp [Matched, coincide]
    · exact .error _ _
    · exact listed fun _ => Iff.rfl
    · exact .error _ _
  | @names names names' same =>
    -- A list without names is refused, and both lists are without names together.
    cases names with
    | nil =>
      cases names' with
      | nil => exact .error _ _
      | cons name => cases (same name).mpr List.mem_cons_self
    | cons name =>
      cases names' with
      | nil => cases (same name).mp List.mem_cons_self
      | cons => exact listed same

/-- Alike nodes list alternatives with the same leaves. -/
theorem NodesAlike.listed (alike : NodesAlike left right) :
    Agree SameLeaves (listedBranches left) (listedBranches right) := by
  -- The lists are the same, or have alternatives with the same leaves.
  have say : SayAlike .anyOf (Fields.get? "anyOf" left) (Fields.get? "anyOf" right) :=
    alike .anyOf
  generalize first : Fields.get? "anyOf" left = value at say
  generalize second : Fields.get? "anyOf" right = value' at say
  have reads := listedBranches_eq left
  have reads' := listedBranches_eq right
  rw [first] at reads
  rw [second] at reads'
  cases say with
  | same =>
    -- The same list is read the same, as branches that are canonical.
    rw [reads'.trans reads.symm]
    refine .refl ?_
    intro branches read
    refine .refl ?_
    intro branch inside
    obtain ⟨_, _, read⟩ := exists_of_forall₂ (listedBranches_ok read) branch inside
    exact ofDocument_canonical read
  | @alternatives alternatives alternatives' present agree =>
    match alternatives, alternatives', present with
    | _ :: _, _ :: _, _ =>
      rw [reads, reads']
      exact agree

/-- Alike nodes declare properties together. -/
theorem NodesAlike.declares (alike : NodesAlike left right) :
    (Fields.get? "properties" left).isSome = (Fields.get? "properties" right).isSome := by
  -- Of values that say alike, both are there or none is.
  have say : SayAlike .properties (Fields.get? "properties" left)
    (Fields.get? "properties" right) := alike .properties
  generalize Fields.get? "properties" left = value,
    Fields.get? "properties" right = value' at say
  cases say <;> rfl

/-- Nodes whose keywords say the same are read alike. -/
theorem NodesAlike.agree (alike : NodesAlike left right) :
    Agree Coincide (ofDocument left) (ofDocument right) := by
  -- The branches of both kinds have the same leaves together, and then so do their unions.
  rw [ofDocument_eq, ofDocument_eq]
  refine alike.typed.bind fun typed typed' names => ?_
  refine alike.listed.bind fun listed listed' alternatives => ?_
  have same := names.append alternatives
  generalize typed ++ listed = branches at same
  generalize typed' ++ listed' = branches' at same
  match branches, branches' with
  | [], [] =>
    -- Without a branch on either side, the parts decide.
    unfold ofBranches
    dsimp only
    rw [alike.declares]
    split
    · exact alike.object.bind fun _ _ coincide => .ok coincide
    · exact .ok (.refl .any)
  -- There is no branch on one side alone.
  | [], _ :: _ => cases same.symm.nil_of_nil rfl
  | _ :: _, [] => cases same.nil_of_nil rfl
  | _ :: _, _ :: _ => exact .ok same.union

end Nodes

end Schema

end BsonTable
