import BsonTable.Proofs.Schema.Malformed
import BsonTable.Proofs.Schema.RoundTrip
import Mathlib.Logic.Relation

/-!
The grammar of schema documents. A document is read as a schema exactly when its keywords have the
values that the grammar allows, here and in every node below; the failure to read any other
document finds fault with a value, or with a type name of a node that the reader came to.
-/

namespace BsonTable

/-- Whether a text spells the name of a type. -/
def TypeName.IsKnown (text : String) : Prop :=
  ∃ name : TypeName, name.text = text

/-- The types that a text is read as are those that it spells. -/
theorem TypeName.parse_eq_ok_iff {text : String} {name : TypeName} :
    TypeName.parse text = .ok name ↔ name.text = text := by
  -- The types are searched for one that is spelled so, and no two are spelled alike.
  refine ⟨fun read => ?_, fun spelled => spelled ▸ TypeName.parse_text name⟩
  unfold TypeName.parse at read
  split at read
  · rename_i found
    cases read
    have spelled := List.find?_some found
    exact beq_iff_eq.mp spelled
  · cases read

/-- No two types are spelled alike. -/
theorem TypeName.text_injective : Function.Injective TypeName.text := by
  -- Both are what their common spelling is read as.
  intro name other same
  exact Except.ok.inj ((TypeName.parse_eq_ok_iff.mpr same).symm.trans (TypeName.parse_text other))

/-- A text is read as a type when it spells one. -/
theorem TypeName.parse_succeeds_iff {text : String} :
    Succeeds (TypeName.parse text) ↔ TypeName.IsKnown text :=
  exists_congr fun _ => TypeName.parse_eq_ok_iff

/-- A text fails to be read as a type only when it spells none. -/
theorem TypeName.parse_error {text : String} {error : Error}
    (failed : TypeName.parse text = .error error) :
    error = .unknownTypeName text ∧ ¬ TypeName.IsKnown text := by
  constructor
  · unfold TypeName.parse at failed
    split at failed
    · cases failed
    · cases failed
      rfl
  · -- Had it spelled a type, that type would have been found.
    intro known
    obtain ⟨name, read⟩ := TypeName.parse_succeeds_iff.mpr known
    cases failed.symm.trans read

/-- Only texts have a text. -/
theorem Value.asString?_eq_some_iff {value : Value} {text : String} :
    value.asString? = some text ↔ value = .string text := by
  cases value <;> simp [asString?]

/-- Only documents have fields. -/
theorem Value.asDocument?_eq_some_iff {value : Value} {fields : Document} :
    value.asDocument? = some fields ↔ value = .document fields := by
  cases value <;> simp [asDocument?]

namespace Schema

/-- The values that a keyword may have in a node that is read for it. -/
inductive Keyword.Allows : Keyword → Option Value → Prop
  | absent (keyword : Keyword) : Allows keyword none
  /-- A node has one type, -/
  | type {name : String} (known : TypeName.IsKnown name) :
      Allows .bsonType (some (.string name))
  /-- or it lists some. -/
  | types {names : List Value} (nonempty : names ≠ [])
      (known : ∀ value ∈ names, ∃ name, value = .string name ∧ TypeName.IsKnown name) :
      Allows .bsonType (some (.array names))
  | alternatives {alternatives : List Value} (nonempty : alternatives ≠ [])
      (documents : ∀ value ∈ alternatives, ∃ sub, value = .document sub) :
      Allows .anyOf (some (.array alternatives))
  | properties {fields : Document}
      (documents : ∀ field ∈ fields, ∃ sub, field.2 = .document sub) :
      Allows .properties (some (.document fields))
  | required {names : List Value} (texts : ∀ value ∈ names, ∃ name, value = .string name) :
      Allows .required (some (.array names))
  | permission (allowed : Bool) : Allows .additionalProperties (some (.bool allowed))
  | additional (fields : Document) : Allows .additionalProperties (some (.document fields))
  | positions (elements : List Value) : Allows .items (some (.array elements))
  | items (fields : Document) : Allows .items (some (.document fields))

/-- Whether a keyword of a node has a value that it may have. -/
def Keyword.Fits (keyword : Keyword) (doc : Document) : Prop :=
  -- A keyword that is absent may be so, since every keyword has a default.
  keyword.Allows (Fields.get? keyword.text doc)

/-- The nodes that a node declares as properties. -/
def propertyNodesOf (doc : Document) : List Document :=
  match Fields.get? "properties" doc with
  -- Values that are no documents are no nodes, and a node that has them does not fit anyway.
  | some (.document fields) => fields.filterMap fun field => field.2.asDocument?
  | _ => []

/-- Whether a node is for documents: it says so, or says nothing of types but has properties. -/
def IsForDocuments (doc : Document) : Prop :=
  TypeName.object.text ∈ typeNamesOf doc ∨
    -- Without types and alternatives, properties are what makes a node one for documents.
    Fields.get? "bsonType" doc = none ∧ Fields.get? "anyOf" doc = none ∧
      (Fields.get? "properties" doc).isSome

/-- Whether a node says that it is for arrays. -/
def IsForArrays (doc : Document) : Prop :=
  TypeName.array.text ∈ typeNamesOf doc

/-- The keywords of a node that is for documents. -/
def documentKeywords : List Keyword :=
  [.properties, .required, .additionalProperties]

/-- Keywords with values that they may have, where the node is read for them. -/
structure KeywordsFit (doc : Document) : Prop where
  types : Keyword.bsonType.Fits doc
  alternatives : Keyword.anyOf.Fits doc
  document : IsForDocuments doc → ∀ keyword ∈ documentKeywords, keyword.Fits doc
  items : IsForArrays doc → Keyword.items.Fits doc

/-- The nodes that stand directly below a node, where it is read for them. -/
inductive Subnode (doc : Document) : Document → Prop
  | alternative {sub : Document} (listed : sub ∈ alternativesOf doc) : Subnode doc sub
  | property {sub : Document} (documents : IsForDocuments doc)
      (declared : sub ∈ propertyNodesOf doc) : Subnode doc sub
  | items {sub : Document} (arrays : IsForArrays doc)
      (found : Fields.get? "items" doc = some (.document sub)) : Subnode doc sub

/-- The grammar of schema documents. -/
inductive WellFormed : Document → Prop
  | node {doc : Document} (keywords : KeywordsFit doc)
      (subnodes : ∀ sub, Subnode doc sub → WellFormed sub) : WellFormed doc

/-- What stands below a node is smaller. -/
theorem Subnode.sizeOf_lt {doc sub : Document} (subnode : Subnode doc sub) :
    sizeOf sub < sizeOf doc := by
  cases subnode with
  -- An alternative is an element of a list that the node has as a value.
  | alternative listed => exact sizeOf_lt_of_alternative listed
  | property documents declared =>
    unfold propertyNodesOf at declared
    split at declared
    · rename_i fields found
      obtain ⟨⟨name, value⟩, inside, read⟩ := List.mem_filterMap.mp declared
      cases value <;> simp [Value.asDocument?] at read
      subst read
      exact sizeOf_lt_of_declared found inside
    · cases declared
  | items arrays found =>
    have size := Fields.sizeOf_lt_of_get? found
    simp only [Value.document.sizeOf_spec] at size
    omega

section Success

variable {doc : Document}

/-- A value is read as a schema when it is a document that is. -/
theorem readAlternative_succeeds_iff {value : Value} :
    Succeeds (readAlternative value) ↔ ∃ sub, value = .document sub ∧ Succeeds (ofDocument sub) := by
  cases value with
  | document sub => simp [readAlternative]
  | _ => simp [readAlternative, unexpected, malformed, Succeeds]

/-- A value is read as a type name when it is a text that is. -/
theorem readName_succeeds_iff {value : Value} :
    Succeeds (readName doc value) ↔
      ∃ name, value = .string name ∧ Succeeds (ofTypeName name doc) := by
  cases value with
  | string name => simp [readName]
  | _ => simp [readName, unexpected, malformed, Succeeds]

/-- A property is read when it is a document that is. -/
theorem readProperty_succeeds_iff {field : String × Value} :
    Succeeds (readProperty field) ↔
      ∃ sub, field.2 = .document sub ∧ Succeeds (ofDocument sub) := by
  obtain ⟨name, value⟩ := field
  cases value with
  | document sub =>
    rw [readProperty, Succeeds.bind_pure_iff]
    simp
  | _ => simp [readProperty, malformed, Succeeds]

/-- Every element has a part that satisfies something when all have parts and all parts do. -/
theorem forall_part_iff {α : Type u} {β : Type v} {elements : List α} {part : α → Option β}
    {holds : β → Prop} :
    (∀ element ∈ elements, ∃ b, part element = some b ∧ holds b) ↔
      (∀ element ∈ elements, ∃ b, part element = some b) ∧
        ∀ b ∈ elements.filterMap part, holds b := by
  constructor
  · -- From left to right, a part is one of some element, which has no other part.
    intro each
    refine ⟨fun element inside => (each element inside).imp fun _ both => both.1, ?_⟩
    intro b inside
    obtain ⟨element, member, found⟩ := List.mem_filterMap.mp inside
    obtain ⟨_, found', held⟩ := each element member
    cases found.symm.trans found'
    exact held
  · -- From right to left, the part of each element is among the parts.
    rintro ⟨parts, held⟩ element inside
    obtain ⟨b, found⟩ := parts element inside
    exact ⟨b, found, held b (List.mem_filterMap.mpr ⟨element, inside, found⟩)⟩

/-- The properties of a node are read when they are documents that are. -/
theorem propertiesOf_succeeds_iff :
    Succeeds (propertiesOf doc) ↔ Keyword.properties.Fits doc ∧
      ∀ sub ∈ propertyNodesOf doc, Succeeds (ofDocument sub) := by
  rw [propertiesOf_eq]
  unfold Keyword.Fits propertyNodesOf Keyword.text
  -- The keyword is absent, or a document, or anything else.
  split
  · rename_i absent
    rw [absent]
    exact iff_of_true (.ok []) ⟨.absent _, List.forall_mem_nil _⟩
  · rename_i fields found
    rw [found, ofProperties_eq_mapM, Succeeds.bind_pure_iff, Succeeds.mapM_iff]
    -- The order of the properties does not matter to success, only to which of them fails first.
    simp only [readProperty_succeeds_iff, ← Value.asDocument?_eq_some_iff, forall_part_iff]
    simp only [Value.asDocument?_eq_some_iff]
    refine and_congr_left fun _ => ⟨.properties, fun fits => ?_⟩
    cases fits with
    | properties documents => exact documents
  · rename_i absent other found
    rw [found]
    refine iff_of_false (Succeeds.not_error _) fun held => ?_
    cases held.1 with
    | properties => exact other _ rfl

/-- The required names of a node are read when they are texts. -/
theorem requiredOf_succeeds_iff : Succeeds (requiredOf doc) ↔ Keyword.required.Fits doc := by
  -- Again the value is absent, of the right form, or of another one.
  unfold requiredOf Keyword.Fits Keyword.text
  split
  · rename_i absent
    rw [absent]
    exact iff_of_true (.ok []) (.absent _)
  · rename_i names found
    rw [found]
    constructor
    · rintro ⟨sorted, read⟩
      exact .required (texts_of_foldlM_requireName read)
    · intro fits
      cases fits with
      | required texts => exact (foldlM_requireName texts []).imp fun _ both => both.1
  · rename_i absent other found
    rw [found]
    refine iff_of_false (Succeeds.not_error _) fun fits => ?_
    cases fits with
    | required => exact other _ rfl

/-- The permission of undeclared fields is read when it is a truth value or a schema. -/
theorem additionalOf_succeeds_iff :
    Succeeds (additionalOf doc) ↔ Keyword.additionalProperties.Fits doc := by
  -- Both forms that may be given are read, and what stands in a schema here is not looked at.
  unfold additionalOf Keyword.Fits Keyword.text
  split
  · rename_i absent
    rw [absent]
    exact iff_of_true (.ok false) (.absent _)
  · rename_i allowed found
    rw [found]
    exact iff_of_true (.ok allowed) (.permission allowed)
  · rename_i fields found
    rw [found]
    exact iff_of_true (.ok true) (.additional fields)
  · rename_i absent notBool notDocument found
    rw [found]
    refine iff_of_false (Succeeds.not_error _) fun fits => ?_
    cases fits with
    | permission => exact notBool _ rfl
    | additional => exact notDocument _ rfl

/-- The parts of a document node are read when all its keywords are. -/
theorem objectOf_succeeds_iff :
    Succeeds (objectOf doc) ↔ (∀ keyword ∈ documentKeywords, keyword.Fits doc) ∧
      ∀ sub ∈ propertyNodesOf doc, Succeeds (ofDocument sub) := by
  -- None of the three parts looks at what the others were read as.
  have parts : Succeeds (objectOf doc) ↔
      Succeeds (propertiesOf doc) ∧ Succeeds (requiredOf doc) ∧ Succeeds (additionalOf doc) := by
    rw [objectOf]
    exact Succeeds.bind_iff_and fun _ => Succeeds.bind_iff_and fun _ => Succeeds.bind_pure_iff
  rw [parts, propertiesOf_succeeds_iff, requiredOf_succeeds_iff, additionalOf_succeeds_iff]
  simp only [documentKeywords, List.forall_mem_cons, List.not_mem_nil]
  tauto

/-- The items of an array node are read when they are a list or a schema. -/
theorem itemsOf_succeeds_iff :
    Succeeds (itemsOf doc) ↔ Keyword.items.Fits doc ∧
      ∀ sub, Fields.get? "items" doc = some (.document sub) → Succeeds (ofDocument sub) := by
  rw [itemsOf_eq]
  -- A list of schemas by position is accepted but not read, and anything else has to be a schema.
  unfold Keyword.Fits Keyword.text
  split
  · rename_i absent
    rw [absent]
    exact iff_of_true (.ok any) ⟨.absent _, nofun⟩
  · rename_i items found
    rw [found]
    refine ⟨fun read => ⟨.items items, ?_⟩, fun both => both.2 items rfl⟩
    rintro sub ⟨⟩
    exact read
  · rename_i elements found
    rw [found]
    exact iff_of_true (.ok any) ⟨.positions elements, nofun⟩
  · rename_i absent notDocument notList found
    rw [found]
    refine iff_of_false (Succeeds.not_error _) fun held => ?_
    cases held.1 with
    | positions => exact notList _ rfl
    | items => exact notDocument _ rfl

/-- The branch of a type name is read when the name is known and its parts are read. -/
theorem ofTypeName_succeeds_iff {name : String} :
    Succeeds (ofTypeName name doc) ↔ TypeName.IsKnown name ∧
      (name = TypeName.object.text → Succeeds (objectOf doc)) ∧
      (name = TypeName.array.text → Succeeds (itemsOf doc)) := by
  -- Only an object and an array have parts that the node is read for.
  rw [ofTypeName, Succeeds.bind_iff]
  simp only [TypeName.parse_eq_ok_iff]
  constructor
  · rintro ⟨type, rfl, read⟩
    -- The name is that of the type, so the branch taken is the one for that type.
    refine ⟨⟨type, rfl⟩, fun same => ?_, fun same => ?_⟩
    · obtain rfl := TypeName.text_injective same
      exact Succeeds.bind_pure_iff.mp read
    · obtain rfl := TypeName.text_injective same
      exact Succeeds.bind_pure_iff.mp read
  · rintro ⟨⟨type, rfl⟩, object, array⟩
    refine ⟨type, rfl, ?_⟩
    split
    · exact Succeeds.bind_pure_iff.mpr (object rfl)
    · exact Succeeds.bind_pure_iff.mpr (array rfl)
    · exact .ok _

/-- The branches of the types of a node are read when it lists types whose branches are. -/
theorem typedBranches_succeeds_iff :
    Succeeds (typedBranches doc) ↔ Keyword.bsonType.Fits doc ∧
      ∀ name ∈ typeNamesOf doc, Succeeds (ofTypeName name doc) := by
  -- One case for each form that the value may have, and the last one for all other values.
  rw [typedBranches_eq]
  unfold Keyword.Fits typeNamesOf Keyword.text
  split
  · rename_i absent
    rw [absent]
    exact iff_of_true (.ok []) ⟨.absent _, List.forall_mem_nil _⟩
  · rename_i name found
    rw [found, Succeeds.bind_pure_iff]
    simp only [List.forall_mem_singleton]
    exact ⟨fun read => ⟨.type (ofTypeName_succeeds_iff.mp read).1, read⟩, And.right⟩
  · rename_i found
    rw [found]
    refine iff_of_false (Succeeds.not_error _) fun held => ?_
    cases held.1 with
    | types nonempty => exact nonempty rfl
  · rename_i names nonempty found
    -- The branch of a name is read only when the name is known, so the texts may be any.
    rw [found, Succeeds.mapM_iff]
    simp only [readName_succeeds_iff, ← Value.asString?_eq_some_iff, forall_part_iff]
    simp only [Value.asString?_eq_some_iff]
    refine and_congr_left fun read => ⟨fun texts => .types nonempty ?_, fun fits => ?_⟩
    · intro value inside
      obtain ⟨name, rfl⟩ := texts value inside
      have listed : name ∈ names.filterMap Value.asString? :=
        List.mem_filterMap.mpr ⟨_, inside, rfl⟩
      exact ⟨name, rfl, (ofTypeName_succeeds_iff.mp (read name listed)).1⟩
    · cases fits with
      | types _ known => exact fun value inside => (known value inside).imp fun _ both => both.1
  · rename_i absent other notNil notList found
    rw [found]
    refine iff_of_false (Succeeds.not_error _) fun held => ?_
    cases held.1 with
    | type => exact other _ rfl
    | types => exact notList _ rfl

/-- The branches that a node lists are read when they are documents that are. -/
theorem listedBranches_succeeds_iff :
    Succeeds (listedBranches doc) ↔ Keyword.anyOf.Fits doc ∧
      ∀ sub ∈ alternativesOf doc, Succeeds (ofDocument sub) := by
  -- As for types, but an alternative has no text that could be unknown.
  rw [listedBranches_eq]
  unfold Keyword.Fits alternativesOf Keyword.text
  split
  · rename_i absent
    rw [absent]
    exact iff_of_true (.ok []) ⟨.absent _, List.forall_mem_nil _⟩
  · rename_i found
    rw [found]
    refine iff_of_false (Succeeds.not_error _) fun held => ?_
    cases held.1 with
    | alternatives nonempty => exact nonempty rfl
  · rename_i alternatives nonempty found
    rw [found, ofAlternatives_eq_mapM, Succeeds.mapM_iff]
    simp only [readAlternative_succeeds_iff, ← Value.asDocument?_eq_some_iff, forall_part_iff]
    simp only [Value.asDocument?_eq_some_iff]
    refine and_congr_left fun _ => ⟨.alternatives nonempty, fun fits => ?_⟩
    cases fits with
    | alternatives _ documents => exact documents
  · rename_i absent notNil notList found
    rw [found]
    refine iff_of_false (Succeeds.not_error _) fun held => ?_
    cases held.1 with
    | alternatives => exact notList _ rfl

/-- Only a node that says nothing of types and alternatives has no branches. -/
theorem branches_eq_nil_iff {typed listed : List Schema} (first : typedBranches doc = .ok typed)
    (second : listedBranches doc = .ok listed) :
    typed ++ listed = [] ↔
      Fields.get? "bsonType" doc = none ∧ Fields.get? "anyOf" doc = none := by
  rw [List.append_eq_nil_iff]
  -- Each keyword that is there has at least one branch, and an absent one has none.
  refine and_congr ⟨fun none => ?_, fun absent => ?_⟩ ⟨fun none => ?_, fun absent => ?_⟩
  · exact Option.not_isSome_iff_eq_none.mp fun present => typedBranches_ne_nil first present none
  · rw [typedBranches_eq, absent] at first
    cases first
    rfl
  · exact Option.not_isSome_iff_eq_none.mp fun present => listedBranches_ne_nil second present none
  · rw [listedBranches_eq, absent] at second
    cases second
    rfl

/-- Branches make a schema, and without branches the parts of a document node do, if it has any. -/
theorem ofBranches_succeeds_iff {branches : List Schema} :
    Succeeds (ofBranches doc branches) ↔
      (branches = [] → (Fields.get? "properties" doc).isSome → Succeeds (objectOf doc)) := by
  -- The parts of the node are read here only when nothing else was said.
  unfold ofBranches
  split
  · simp only [forall_true_left]
    split
    · rename_i declared
      simp only [declared, forall_true_left]
      exact Succeeds.bind_pure_iff
    · rename_i undeclared
      exact iff_of_true (.ok any) fun declared => absurd declared undeclared
  · rename_i nonempty
    exact iff_of_true (.ok _) fun none => absurd none nonempty

/-- A node is read when its branches and the parts that it is for are. -/
theorem ofDocument_succeeds_iff_parts :
    Succeeds (ofDocument doc) ↔ Succeeds (typedBranches doc) ∧ Succeeds (listedBranches doc) ∧
      (IsForDocuments doc → Succeeds (objectOf doc)) ∧
      (IsForArrays doc → Succeeds (itemsOf doc)) := by
  rw [ofDocument_eq, Succeeds.bind_iff]
  -- The two kinds of branches are read in this order, and then what becomes of them.
  simp only [Succeeds.bind_iff, ofBranches_succeeds_iff]
  constructor
  · rintro ⟨typed, first, listed, second, whole⟩
    -- The parts of a type that is named were read with the branch of its name.
    have named := (typedBranches_succeeds_iff.mp ⟨typed, first⟩).2
    refine ⟨⟨typed, first⟩, ⟨listed, second⟩, ?_, fun arrays => ?_⟩
    · rintro (object | ⟨untyped, unlisted, declared⟩)
      · exact (ofTypeName_succeeds_iff.mp (named _ object)).2.1 rfl
      · exact whole ((branches_eq_nil_iff first second).mpr ⟨untyped, unlisted⟩) declared
    · exact (ofTypeName_succeeds_iff.mp (named _ arrays)).2.2 rfl
  · rintro ⟨⟨typed, first⟩, ⟨listed, second⟩, object, _⟩
    refine ⟨typed, first, listed, second, fun none declared => object (.inr ?_)⟩
    obtain ⟨untyped, unlisted⟩ := (branches_eq_nil_iff first second).mp none
    exact ⟨untyped, unlisted, declared⟩

/-- The types of a node that fit are names of types. -/
theorem Keyword.Fits.isKnown (fits : Keyword.bsonType.Fits doc) :
    ∀ name ∈ typeNamesOf doc, TypeName.IsKnown name := by
  -- The grammar is inverted for the value of the keyword, whatever it is.
  unfold Fits text at fits
  unfold typeNamesOf
  generalize Fields.get? "bsonType" doc = value at fits
  cases fits with
  | absent => nofun
  | type known => exact List.forall_mem_singleton.mpr known
  | types _ known =>
    intro name inside
    obtain ⟨value, member, text⟩ := List.mem_filterMap.mp inside
    obtain ⟨name', rfl, isKnown⟩ := known value member
    cases text
    exact isKnown

/-- A node is read when its keywords fit and the nodes below it are read. -/
theorem ofDocument_succeeds_iff :
    Succeeds (ofDocument doc) ↔
      KeywordsFit doc ∧ ∀ sub, Subnode doc sub → Succeeds (ofDocument sub) := by
  -- Every part is replaced by what it takes to read it.
  rw [ofDocument_succeeds_iff_parts, typedBranches_succeeds_iff, listedBranches_succeeds_iff,
    objectOf_succeeds_iff, itemsOf_succeeds_iff]
  constructor
  · rintro ⟨⟨types, _⟩, ⟨alternatives, listed⟩, object, items⟩
    refine ⟨⟨types, alternatives, fun documents => (object documents).1,
      fun arrays => (items arrays).1⟩, ?_⟩
    intro sub subnode
    -- A node below is read as part of what it belongs to.
    cases subnode with
    | alternative inside => exact listed sub inside
    | property documents declared => exact (object documents).2 sub declared
    | items arrays found => exact (items arrays).2 sub found
  · rintro ⟨keywords, read⟩
    -- The other way round, the nodes below each part are put together again.
    have object : IsForDocuments doc → _ := fun documents =>
      And.intro (keywords.document documents) fun sub declared =>
        read sub (.property documents declared)
    have items : TypeName.array.text ∈ typeNamesOf doc → _ := fun arrays =>
      And.intro (keywords.items arrays) fun sub found => read sub (.items arrays found)
    refine ⟨⟨keywords.types, fun name named => ?_⟩,
      ⟨keywords.alternatives, fun sub inside => read sub (.alternative inside)⟩, object, items⟩
    -- A name needs the parts of its type, which the node is then for.
    rw [ofTypeName_succeeds_iff, objectOf_succeeds_iff, itemsOf_succeeds_iff]
    exact ⟨keywords.types.isKnown name named, fun same => object (.inl (same ▸ named)),
      fun same => items (same ▸ named)⟩

/-- What can be read is what the grammar allows. -/
theorem succeeds_iff_wellFormed : Succeeds (ofDocument doc) ↔ WellFormed doc := by
  constructor
  · -- The nodes below are smaller.
    intro read
    induction size : sizeOf doc using Nat.strongRecOn generalizing doc with
    | ind size ih =>
      subst size
      obtain ⟨keywords, below⟩ := ofDocument_succeeds_iff.mp read
      exact .node keywords fun sub subnode => ih _ subnode.sizeOf_lt (below sub subnode) rfl
  · intro wellFormed
    induction wellFormed with
    -- The grammar is an inductive one, so this follows its derivation.
    | node keywords _ ih => exact ofDocument_succeeds_iff.mpr ⟨keywords, ih⟩

end Success

/-- The entries of a node that are to be names of types, in order. -/
def typeEntriesOf (doc : Document) : List Value :=
  match Fields.get? "bsonType" doc with
  | some (.string name) => [.string name]
  | some (.array names) => names
  -- Anything else is refused before an entry is looked at.
  | _ => []

/-- Whether a reader comes to a type name of a node, having read the entries before it. -/
def ComesToName (doc : Document) (name : String) : Prop :=
  ∃ before after, typeEntriesOf doc = before ++ .string name :: after ∧
    ∀ earlier ∈ before, Succeeds (readName doc earlier)

/-- Whether a reader comes to the parts of a node that is for documents. -/
def ComesToParts (doc : Document) : Prop :=
  ComesToName doc TypeName.object.text ∨
    -- Without types the parts are read at the very end, so nothing else may have failed.
    Fields.get? "bsonType" doc = none ∧ Fields.get? "anyOf" doc = none

/-- The nodes that the reader of a node goes on to, having read everything before them. -/
inductive Enters (doc : Document) : Document → Prop
  | property {before after : Document} {name : String} {sub : Document} (parts : ComesToParts doc)
      (declared : Fields.get? "properties" doc =
        some (.document (before ++ (name, .document sub) :: after)))
      (earlier : ∀ field ∈ before, Succeeds (readProperty field)) : Enters doc sub
  | items {sub : Document} (named : ComesToName doc TypeName.array.text)
      (found : Fields.get? "items" doc = some (.document sub)) : Enters doc sub
  -- The types of the node come first, then the alternatives in order.
  | alternative {before after : List Value} {sub : Document}
      (typed : Succeeds (typedBranches doc))
      (listed : Fields.get? "anyOf" doc = some (.array (before ++ .document sub :: after)))
      (earlier : ∀ value ∈ before, Succeeds (readAlternative value)) : Enters doc sub

/-- The nodes that the reader of a document comes to, the document itself included. -/
def Visits : Document → Document → Prop :=
  Relation.ReflTransGen Enters

/-- What can be found fault with in a document. -/
inductive Fault (doc : Document) : Error → Prop
  | form (reason : String) : Fault doc (.schemaFormat reason)
  | typeName {node : Document} {name : String} (visited : Visits doc node)
      (named : name ∈ typeNamesOf node) (unknown : ¬ TypeName.IsKnown name) :
      Fault doc (.unknownTypeName name)

/-- A fault finds fault with a schema. -/
theorem Fault.isMalformed {doc : Document} {error : Error} (fault : Fault doc error) :
    error.IsMalformed := by
  cases fault with
  | form reason => exact .form reason
  | typeName => exact .typeName _

/-- A fault of a node that a reader goes on to is one of the node that it came from. -/
theorem Fault.of_enters {doc sub : Document} (enters : Enters doc sub) {error : Error}
    (fault : Fault sub error) : Fault doc error := by
  -- A fault of form names no node, and one of a name was found further on the way.
  cases fault with
  | form reason => exact .form reason
  | typeName visited named unknown => exact .typeName (.head enters visited) named unknown

/-- A reader goes on to smaller nodes. -/
theorem Enters.sizeOf_lt {doc sub : Document} (enters : Enters doc sub) :
    sizeOf sub < sizeOf doc := by
  -- A property is an element of a document that the node has as a value.
  cases enters with
  | property _ declared =>
    exact sizeOf_lt_of_declared declared (List.mem_append_right _ List.mem_cons_self)
  | items _ found =>
    have size := Fields.sizeOf_lt_of_get? found
    simp only [Value.document.sizeOf_spec] at size
    omega
  | alternative _ listed =>
    refine sizeOf_lt_of_alternative ?_
    rw [alternativesOf, listed]
    exact List.mem_filterMap.mpr ⟨_, List.mem_append_right _ List.mem_cons_self, rfl⟩

/-- A type name that a reader comes to is one of those that the node lists. -/
theorem ComesToName.mem {doc : Document} {name : String} (comes : ComesToName doc name) :
    name ∈ typeNamesOf doc := by
  -- A name is among the entries as a text.
  obtain ⟨before, after, entries, _⟩ := comes
  have inside : .string name ∈ typeEntriesOf doc := by
    rw [entries]
    exact List.mem_append_right _ List.mem_cons_self
  unfold typeEntriesOf at inside
  unfold typeNamesOf
  split at inside <;> simp_all [Value.asString?]
  exact ⟨_, inside, rfl⟩

section Failure

-- The nodes that the reader goes on to are known to fail by faults of this node only.
variable {doc : Document}
  (entered : ∀ sub, Enters doc sub → FailsOnly (Fault doc) (ofDocument sub))

/-- Required names fail to be read only for their form. -/
theorem requiredOf_failsOnly : FailsOnly (Fault doc) (requiredOf doc) := by
  -- The names are added one by one, so the ones so far stay quantified over.
  have general : ∀ (values : List Value) (sorted : List String),
      FailsOnly (Fault doc) (values.foldlM requireName sorted) := by
    intro values
    induction values with
    | nil => exact fun sorted => .ok sorted
    | cons value rest ih =>
      intro sorted
      rw [List.foldlM_cons]
      refine FailsOnly.bind ?_ fun names _ => ih names
      cases value with
      | string name => exact .ok _
      | _ => exact .error (.form _)
  unfold requiredOf
  split
  · exact .ok []
  · exact general _ []
  · exact .error (.form _)

/-- So does the permission of undeclared fields. -/
theorem additionalOf_failsOnly : FailsOnly (Fault doc) (additionalOf doc) := by
  -- Three forms are fine, and a schema is not entered here.
  unfold additionalOf
  split
  · exact .ok false
  · exact .ok _
  · exact .ok true
  · exact .error (.form _)

include entered

/-- The properties of a node fail to be read for their form, or as the nodes that they are. -/
theorem propertiesOf_failsOnly (parts : ComesToParts doc) :
    FailsOnly (Fault doc) (propertiesOf doc) := by
  -- A property is entered when those before it could be read.
  rw [propertiesOf_eq]
  split
  · exact .ok []
  · rename_i fields found
    rw [ofProperties_eq_mapM]
    refine FailsOnly.bind (.mapM ?_) fun _ _ => .ok _
    rintro before ⟨name, value⟩ after rfl earlier
    cases value with
    | document sub =>
      exact (entered sub (.property parts found earlier)).bind fun _ _ => .ok _
    | _ => exact .error (.form _)
  · exact .error (.form _)

/-- So do all parts of a document node. -/
theorem objectOf_failsOnly (parts : ComesToParts doc) : FailsOnly (Fault doc) (objectOf doc) := by
  -- All three parts are read one behind the other.
  rw [objectOf]
  refine (propertiesOf_failsOnly entered parts).bind fun _ _ => ?_
  exact requiredOf_failsOnly.bind fun _ _ => additionalOf_failsOnly.bind fun _ _ => .ok _

/-- So do the items of an array node. -/
theorem itemsOf_failsOnly (named : ComesToName doc TypeName.array.text) :
    FailsOnly (Fault doc) (itemsOf doc) := by
  -- Only a schema for all items is entered.
  rw [itemsOf_eq]
  split
  · exact .ok any
  · exact entered _ (.items named ‹_›)
  · exact .ok any
  · exact .error (.form _)

/-- The branch of a type name fails to be read for the name, or for the parts of the type. -/
theorem ofTypeName_failsOnly {name : String} (comes : ComesToName doc name) :
    FailsOnly (Fault doc) (ofTypeName name doc) := by
  -- The name is looked at before the parts of its type.
  rw [ofTypeName]
  refine FailsOnly.bind (fun error failed => ?_) fun type read => ?_
  · obtain ⟨rfl, unknown⟩ := TypeName.parse_error failed
    exact .typeName .refl comes.mem unknown
  · obtain rfl := TypeName.parse_eq_ok_iff.mp read
    split
    · exact (objectOf_failsOnly entered (.inl comes)).bind fun _ _ => .ok _
    · exact (itemsOf_failsOnly entered comes).bind fun _ _ => .ok _
    · exact .ok _

/-- The branches of the types of a node fail to be read for their form, or as those of names. -/
theorem typedBranches_failsOnly : FailsOnly (Fault doc) (typedBranches doc) := by
  -- One name alone has none before it; in a list, those before it were read.
  rw [typedBranches_eq]
  split
  · exact .ok []
  · rename_i name found
    have comes : ComesToName doc name := ⟨[], [], by rw [typeEntriesOf, found]; rfl,
      List.forall_mem_nil _⟩
    exact (ofTypeName_failsOnly entered comes).bind fun _ _ => .ok _
  · exact .error (.form _)
  · rename_i names _ found
    refine .mapM fun before value after split earlier => ?_
    cases value with
    | string name =>
      exact ofTypeName_failsOnly entered ⟨before, after, by rw [typeEntriesOf, found, split], earlier⟩
    | _ => exact .error (.form _)
  · exact .error (.form _)

/-- The branches that a node lists fail to be read for their form, or as the nodes that they are. -/
theorem listedBranches_failsOnly (typed : Succeeds (typedBranches doc)) :
    FailsOnly (Fault doc) (listedBranches doc) := by
  -- An alternative is entered when all types and the alternatives before it could be read.
  rw [listedBranches_eq]
  split
  · exact .ok []
  · exact .error (.form _)
  · rename_i alternatives _ found
    rw [ofAlternatives_eq_mapM]
    refine .mapM fun before value after split earlier => ?_
    cases value with
    | document sub => exact entered sub (.alternative typed (split ▸ found) earlier)
    | _ => exact .error (.form _)
  · exact .error (.form _)

end Failure

/-- A document fails to be read as a schema only for a fault of its own. -/
theorem ofDocument_failsOnly (doc : Document) : FailsOnly (Fault doc) (ofDocument doc) := by
  -- A reader goes on to smaller nodes.
  induction size : sizeOf doc using Nat.strongRecOn generalizing doc with
  | ind size ih =>
    subst size
    have entered : ∀ sub, Enters doc sub → FailsOnly (Fault doc) (ofDocument sub) :=
      fun sub enters => (ih _ enters.sizeOf_lt sub rfl).imp fun _ fault => fault.of_enters enters
    rw [ofDocument_eq]
    -- Types come before alternatives, and parts of documents are read last and without either.
    refine (typedBranches_failsOnly entered).bind fun typed first => ?_
    refine (listedBranches_failsOnly entered ⟨typed, first⟩).bind fun listed second => ?_
    unfold ofBranches
    split
    · rename_i none
      split
      · have absent := (branches_eq_nil_iff first second).mp none
        exact (objectOf_failsOnly entered (.inr absent)).bind fun _ _ => .ok _
      · exact .ok any
    · exact .ok _

/-- A document fails to be read as a schema only by being malformed. -/
theorem ofDocument_onlyMalformed (doc : Document) : OnlyMalformed (ofDocument doc) :=
  (ofDocument_failsOnly doc).imp fun _ fault => fault.isMalformed

/--
A document is read as a schema exactly when it is well formed. Any other document is refused for
the form of a value, or for a text that names no type and is listed as a type by a node that the
reader comes to.
-/
theorem ofDocument_reads_grammar (doc : Document) :
    ((∃ schema, ofDocument doc = .ok schema) ↔ WellFormed doc) ∧
      (¬ WellFormed doc → ∃ error, ofDocument doc = .error error ∧ Fault doc error) := by
  have accepts : (∃ schema, ofDocument doc = .ok schema) ↔ WellFormed doc := succeeds_iff_wellFormed
  -- Acceptance is the first part, and any failure is a fault of this document.
  refine ⟨accepts, fun refused => ?_⟩
  cases read : ofDocument doc with
  | ok schema => exact absurd (accepts.mp ⟨schema, read⟩) refused
  | error error => exact ⟨error, rfl, ofDocument_failsOnly doc error read⟩

-- A branch that fits anything does not hide the fault of another one.
example :
    ofDocument [("anyOf", .array [.document [], .document [("bsonType", .string "number")]])] =
      .error (.unknownTypeName "number") := by cbv

end Schema

end BsonTable
