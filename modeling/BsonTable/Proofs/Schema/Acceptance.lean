import BsonTable.Proofs.Schema.Reading

/-! The values that a schema accepts, which simplification neither loses nor adds to. -/

namespace BsonTable.Schema

mutual

/-- Whether a value conforms to a schema. -/
def accepts : Schema → Value → Bool
  | any, _ => true
  | scalar name, value => value.typeName == name
  | array items, value =>
    match value with
    | .array elements => elements.all fun element => accepts items element
    | _ => false
  | object properties required additional, value =>
    match value with
    | .document fields =>
      required.all (fun name => (Fields.get? name fields).isSome) &&
        -- Every field has to conform, and all that are required have to be there, null or not.
        fields.all fun field => acceptsField properties additional field.1 field.2
    | _ => false
  | anyOf branches, value => acceptsSome branches value

/-- Whether a field conforms to its declaration, or is undeclared where that is allowed. -/
def acceptsField : List (String × Schema) → Bool → String → Value → Bool
  | [], additional, _, _ => additional
  | (name, schema) :: rest, additional, key, value =>
    -- The first declaration of a name is the one that counts.
    if name = key then accepts schema value else acceptsField rest additional key value

/-- Whether a value conforms to one of the branches. -/
def acceptsSome : List Schema → Value → Bool
  | [], _ => false
  | branch :: rest, value => accepts branch value || acceptsSome rest value

end

/-- A field is judged by the declaration that its name finds. -/
theorem acceptsField_eq (properties : Fields Schema) (additional : Bool) (key : String)
    (value : Value) :
    acceptsField properties additional key value =
      match Fields.get? key properties with
      | some schema => schema.accepts value
      | none => additional := by
  -- Both search for the first declaration of the name.
  induction properties with
  | nil => rfl
  | cons property rest ih =>
    obtain ⟨name, schema⟩ := property
    by_cases same : name = key
    · simp [acceptsField, Fields.get?, same]
    · simp [acceptsField, Fields.get?, same, ih]

/-- A value conforms to one of the branches when some branch accepts it. -/
theorem acceptsSome_eq (branches : List Schema) (value : Value) :
    acceptsSome branches value = branches.any (·.accepts value) := by
  induction branches with
  | nil => rfl
  | cons branch rest ih => simp [acceptsSome, ih]

/-- A union accepts what one of its branches accepts. -/
theorem accepts_anyOf_iff {branches : List Schema} {value : Value} :
    (anyOf branches).accepts value = true ↔
      ∃ branch ∈ branches, branch.accepts value = true := by
  rw [accepts, acceptsSome_eq, List.any_eq_true]

mutual

/-- A schema accepts what one of its leaves accepts. -/
theorem any_leaves_accepts (value : Value) : ∀ schema : Schema,
    (leaves schema).any (·.accepts value) = schema.accepts value
  | any => by simp [leaves]
  | scalar name => by simp [leaves]
  | object properties required additional => by simp [leaves]
  | array items => by simp [leaves]
  | anyOf branches => by
    rw [leaves, any_leavesOf_accepts value branches, accepts, acceptsSome_eq]

/-- One of the branches accepts what one of their leaves accepts. -/
theorem any_leavesOf_accepts (value : Value) : ∀ branches : List Schema,
    (leavesOf branches).any (·.accepts value) = branches.any (·.accepts value)
  | [] => rfl
  | branch :: rest => by
    rw [leavesOf, List.any_append, any_leaves_accepts value branch,
      any_leavesOf_accepts value rest, List.any_cons]

end

/-- Declarations that are the same judge every field alike. -/
theorem acceptsField_congr {left right : Fields Schema} {additional : Bool} {key : String}
    {value : Value} (found : SameFound (Fields.get? key left) (Fields.get? key right))
    (alike : ∀ {a b}, Fields.get? key left = some a → Fields.get? key right = some b →
      a.same b = true → a.accepts value = b.accepts value) :
    acceptsField left additional key value = acceptsField right additional key value := by
  -- Both declarations are looked up, and what is found on both sides is the same.
  rw [acceptsField_eq, acceptsField_eq]
  generalize first : Fields.get? key left = here at found
  generalize second : Fields.get? key right = there at found
  cases found with
  | none => rfl
  | some same => exact alike first second same

/-- Schemas that are the same and repeat nothing accept the same values. -/
theorem accepts_of_same {a b : Schema} (irredundantA : a.Irredundant) (irredundantB : b.Irredundant)
    (same : a.same b = true) (value : Value) : a.accepts value = b.accepts value := by
  -- The induction follows the first schema; the second one has the same shape.
  induction irredundantA generalizing b value with
  | any =>
    cases alike_of_same same
    rfl
  | scalar name =>
    cases alike_of_same same
    rfl
  | @object left required additional once parts ih =>
    cases alike_of_same same with | object _ right =>
    cases irredundantB with
    | object once' parts' =>
      obtain ⟨found, rfl, rfl⟩ := (same_object_iff once once').mp same
      cases value with
      | document fields =>
        -- Whatever a field is called, both sides find declarations that are the same.
        have each : ∀ key value, acceptsField left additional key value =
            acceptsField right additional key value := by
          intro key value
          apply acceptsField_congr (found key)
          intro a b first second same
          exact ih _ (Fields.mem_of_get? first) (parts' _ (Fields.mem_of_get? second)) same value
        simp only [accepts, each]
      | _ => rfl
  | array part ih =>
    -- All elements are judged by the items, to which the hypothesis of induction applies.
    cases alike_of_same same
    cases irredundantB with
    | array part' =>
      rw [Schema.same] at same
      cases value with
      | array elements => simp only [accepts, ih part' same]
      | _ => rfl
  | anyOf distinct parts ih =>
    cases alike_of_same same
    cases irredundantB with
    | anyOf distinct' parts' =>
      have laws := equivalenceOn_irredundant
      obtain ⟨forth, back⟩ := (laws.same_anyOf_iff parts parts' distinct distinct').mp same
      rw [Bool.eq_iff_iff, accepts_anyOf_iff, accepts_anyOf_iff]
      -- The branch that accepts has its partner on the other side.
      constructor
      · intro accepting
        obtain ⟨x, inside, accepted⟩ := accepting
        obtain ⟨y, member, xy⟩ := forth x inside
        exact ⟨y, member, ih x inside (parts' y member) xy value ▸ accepted⟩
      · intro accepting
        obtain ⟨y, inside, accepted⟩ := accepting
        obtain ⟨x, member, yx⟩ := back y inside
        have xy := laws.symm (parts' y inside) (parts x member) yx
        exact ⟨x, member, (ih x member (parts' y inside) xy value).symm ▸ accepted⟩

/-- Dropping repetitions changes nothing about what some leaf accepts. -/
theorem any_keepNew_accepts {pending : List Schema}
    (irredundant : ∀ leaf ∈ pending, leaf.Irredundant) (value : Value) :
    (keepNew [] pending).any (·.accepts value) = pending.any (·.accepts value) := by
  rw [Bool.eq_iff_iff, List.any_eq_true, List.any_eq_true]
  -- What is kept was there before.
  constructor
  · intro accepting
    obtain ⟨leaf, inside, accepted⟩ := accepting
    exact ⟨leaf, by simpa using mem_of_mem_keepNew inside, accepted⟩
  · intro accepting
    obtain ⟨leaf, inside, accepted⟩ := accepting
    -- A leaf that was dropped is the same as one that was kept.
    obtain ⟨other, member, same⟩ : ∃ other ∈ keepNew [] pending, other.same leaf = true :=
      keepNew_covers (fun leaf inside => (irredundant leaf inside).same_self) leaf inside
    have kept : other ∈ pending := by simpa using mem_of_mem_keepNew member
    have alike := accepts_of_same (irredundant other kept) (irredundant leaf inside) same value
    exact ⟨other, member, alike.trans accepted⟩

/-- The schema of some leaves accepts what one of them accepts. -/
theorem ofLeaves_accepts {kept : List Schema} (nonempty : kept ≠ []) (value : Value) :
    (ofLeaves kept).accepts value = kept.any (·.accepts value) := by
  -- A single leaf stands alone, more of them are the branches of a union.
  match kept, nonempty with
  | [only], _ => simp [ofLeaves]
  | first :: second :: rest, _ => simp only [ofLeaves, accepts, acceptsSome_eq]

/-- A canonical schema has a leaf. -/
theorem IsCanonical.leaves_ne_nil {schema : Schema} (canonical : schema.IsCanonical) :
    leaves schema ≠ [] := by
  -- A leaf is one of itself, and a union has several of them.
  cases canonical with
  | @anyOf branches several distinct flat parts =>
    rw [leaves, leavesOf_of_flat fun branch inside => (flat branch inside).2]
    intro empty
    subst empty
    simp at several
  | _ => simp [leaves]

/-- Of the leaves of canonical branches, at least one is kept. -/
theorem keepNew_leavesOf_ne_nil {branches : List Schema} (nonempty : branches ≠ [])
    (canonical : ∀ branch ∈ branches, branch.IsCanonical) :
    keepNew [] (leavesOf branches) ≠ [] := by
  -- A canonical branch has a leaf, and what is kept covers it.
  obtain ⟨branch, inside⟩ := List.exists_mem_of_ne_nil branches nonempty
  obtain ⟨leaf, within⟩ := List.exists_mem_of_ne_nil _ (canonical branch inside).leaves_ne_nil
  obtain ⟨other, member, _⟩ : ∃ other ∈ keepNew [] (leavesOf branches), other.same leaf = true :=
    keepNew_covers
      (fun leaf found => (leafOf_canonical canonical found).1.irredundant.same_self) leaf
      (mem_leavesOf.mpr ⟨branch, inside, within⟩)
  exact List.ne_nil_of_mem member

/-- The union of canonical branches accepts what one of the branches accepts. -/
theorem union_accepts {branches : List Schema} (nonempty : branches ≠ [])
    (canonical : ∀ branch ∈ branches, branch.IsCanonical) (value : Value) :
    (union branches).accepts value = branches.any (·.accepts value) := by
  rw [← any_leavesOf_accepts value branches]
  by_cases free : any ∈ leavesOf branches
  · -- A leaf that fits anything makes both sides accept.
    rw [union_of_any free, accepts]
    exact (List.any_eq_true.mpr ⟨any, free, by rw [accepts]⟩).symm
  · -- Otherwise the distinct leaves decide, of which there is at least one.
    rw [union_of_concrete free, ofLeaves_accepts (keepNew_leavesOf_ne_nil nonempty canonical)]
    exact any_keepNew_accepts
      (fun leaf inside => (leafOf_canonical canonical inside).1.irredundant) value

/-- A node narrowed to one type name, without its alternatives. -/
def withOnlyType (name : String) (doc : Document) : Document :=
  Fields.insert "bsonType" (.string name) (Fields.erase "anyOf" doc)

/-- Narrowing a node touches none of the keywords that the branch of a type name is read from. -/
theorem ofTypeName_withOnlyType (name : String) (doc : Document) :
    ofTypeName name (withOnlyType name doc) = ofTypeName name doc := by
  -- Four keywords are read for a type, and neither of the two that change is among them.
  refine ofTypeName_congr ?_ name
  intro key inside
  simp only [typeKeywords, List.mem_cons, List.not_mem_nil, or_false] at inside
  rcases inside with rfl | rfl | rfl | rfl <;>
    simp [withOnlyType, Fields.get?_insert, Fields.get?_erase]

/-- A node narrowed to one type name is the branch of that name. -/
theorem ofDocument_withOnlyType {name : String} {doc : Document} {branch : Schema}
    (read : ofTypeName name doc = .ok branch) :
    ofDocument (withOnlyType name doc) = .ok branch := by
  -- The narrowed node has one type and nothing else to choose from.
  have typed : Fields.get? "bsonType" (withOnlyType name doc) = some (.string name) := by
    simp [withOnlyType, Fields.get?_insert]
  have unlisted : Fields.get? "anyOf" (withOnlyType name doc) = none := by
    simp [withOnlyType, Fields.get?_insert, Fields.get?_erase]
  have same := (ofTypeName_withOnlyType name doc).trans read
  have canonical := ofTypeName_canonical read fun _ _ _ read => ofDocument_canonical read
  rw [ofDocument_of_typeName typed unlisted same, union_singleton canonical]

/-- A node that says what types or alternatives it has is the union of their branches. -/
theorem ofDocument_eq_union {doc : Document} {schema : Schema} (read : ofDocument doc = .ok schema)
    (branched : (Fields.get? "bsonType" doc).isSome ∨ (Fields.get? "anyOf" doc).isSome) :
    ∃ typed listed, typed ++ listed ≠ [] ∧ schema = union (typed ++ listed) ∧
      List.Forall₂ (fun name branch => ofDocument (withOnlyType name doc) = .ok branch)
        (typeNamesOf doc) typed ∧
      List.Forall₂ (fun alternative branch => ofDocument alternative = .ok branch)
        (alternativesOf doc) listed := by
  -- The branches are not empty, so the node is their union and nothing else.
  obtain ⟨typed, listed, first, second, shape⟩ := ofDocument_ok read
  have nonempty : typed ++ listed ≠ [] := by
    rcases branched with present | present
    · exact List.append_ne_nil_of_left_ne_nil (typedBranches_ne_nil first present) listed
    · exact List.append_ne_nil_of_right_ne_nil typed (listedBranches_ne_nil second present)
  rcases shape with ⟨_, whole⟩ | ⟨empty, _⟩
  · exact ⟨typed, listed, nonempty, whole,
      (typedBranches_ok first).imp fun _ _ read => ofDocument_withOnlyType read,
      listedBranches_ok second⟩
  · exact (nonempty empty).elim

/-- What some branch of a list accepts, an element of a related list stands for. -/
theorem exists_accepting_iff {read : α → Except Error Schema} {elements : List α}
    {branches : List Schema}
    (linked : List.Forall₂ (fun element branch => read element = .ok branch) elements branches)
    (value : Value) :
    (∃ branch ∈ branches, branch.accepts value = true) ↔
      ∃ element ∈ elements, ∃ branch, read element = .ok branch ∧
        branch.accepts value = true := by
  -- The two lists run in parallel, so each element has its branch and each branch its element.
  constructor
  · intro accepting
    obtain ⟨branch, inside, accepted⟩ := accepting
    obtain ⟨element, member, link⟩ := exists_of_forall₂ linked branch inside
    exact ⟨element, member, branch, link, accepted⟩
  · intro accepting
    obtain ⟨element, inside, branch, link, accepted⟩ := accepting
    obtain ⟨other, member, link'⟩ := exists_of_forall₂ linked.flip element inside
    -- An element is read in one way only.
    cases link.symm.trans link'
    exact ⟨branch, member, accepted⟩

/--
Simplification preserves meaning.

A union of canonical branches accepts what some branch accepts, equal schemas accept the same, and
so a node accepts what its single types and its alternatives accept on their own.
-/
theorem simplification_preserves_meaning :
    (∀ branches : List Schema, branches ≠ [] → (∀ branch ∈ branches, branch.IsCanonical) →
      ∀ value, (union branches).accepts value = true ↔
        ∃ branch ∈ branches, branch.accepts value = true) ∧
    (∀ a b : Schema, a.IsCanonical → b.IsCanonical → a.same b = true →
      ∀ value, a.accepts value = b.accepts value) ∧
    ∀ (doc : Document) (schema : Schema), ofDocument doc = .ok schema →
      (Fields.get? "bsonType" doc).isSome ∨ (Fields.get? "anyOf" doc).isSome →
      (∀ name ∈ typeNamesOf doc, ∃ narrowed, ofDocument (withOnlyType name doc) = .ok narrowed) ∧
      (∀ alternative ∈ alternativesOf doc, ∃ branch, ofDocument alternative = .ok branch) ∧
      ∀ value, schema.accepts value = true ↔
        (∃ name ∈ typeNamesOf doc, ∃ narrowed,
          ofDocument (withOnlyType name doc) = .ok narrowed ∧ narrowed.accepts value = true) ∨
        ∃ alternative ∈ alternativesOf doc, ∃ branch,
          ofDocument alternative = .ok branch ∧ branch.accepts value = true := by
  -- The three parts are about unions, about equality and about nodes.
  refine ⟨?_, ?_, ?_⟩
  · intro branches nonempty canonical value
    rw [union_accepts nonempty canonical, List.any_eq_true]
  · intro a b canonicalA canonicalB same value
    exact accepts_of_same canonicalA.irredundant canonicalB.irredundant same value
  · intro doc schema read branched
    obtain ⟨typed, listed, nonempty, rfl, first, second⟩ := ofDocument_eq_union read branched
    -- Every branch was read from a node, and is canonical for that reason.
    have canonical : ∀ branch ∈ typed ++ listed, branch.IsCanonical := by
      intro branch inside
      rcases List.mem_append.mp inside with inside | inside
      · obtain ⟨name, _, link⟩ := exists_of_forall₂ first branch inside
        exact ofDocument_canonical link
      · obtain ⟨alternative, _, link⟩ := exists_of_forall₂ second branch inside
        exact ofDocument_canonical link
    -- Every name and every alternative is read, and the union accepts what one of them accepts.
    refine ⟨?_, ?_, ?_⟩
    · intro name inside
      obtain ⟨branch, _, link⟩ := exists_of_forall₂ first.flip name inside
      exact ⟨branch, link⟩
    · intro alternative inside
      obtain ⟨branch, _, link⟩ := exists_of_forall₂ second.flip alternative inside
      exact ⟨branch, link⟩
    · intro value
      rw [union_accepts nonempty canonical, List.any_append, Bool.or_eq_true, List.any_eq_true,
        List.any_eq_true, exists_accepting_iff first, exists_accepting_iff second]

/-- An optional number accepts a missing value, however its two types are spelled. -/
theorem simplification_preserves_meaning_optional :
    (union [scalar .int, scalar .null]).accepts .null = true ∧
    (anyOf [scalar .int, scalar .null]).accepts .null =
      (anyOf [scalar .null, scalar .int]).accepts .null ∧
    ∃ narrowed, ofDocument
      (withOnlyType "null" [("bsonType", .array [.string "int", .string "null"])]) =
        .ok narrowed := by
  have scalars : ∀ name ∈ [TypeName.int, TypeName.null], (scalar name).IsCanonical := by
    intro name inside
    refine .scalar ?_
    revert name
    decide
  have pair : ∀ {a b : TypeName}, a ∈ [TypeName.int, TypeName.null] →
      b ∈ [TypeName.int, TypeName.null] → a ≠ b → (anyOf [scalar a, scalar b]).IsCanonical := by
    intro a b insideA insideB differ
    refine .anyOf (by simp) ?_ (by simp) ?_
    · simp [Distinct, same, differ, Ne.symm differ]
    · simp [scalars a insideA, scalars b insideB]
  obtain ⟨unions, equals, nodes⟩ := simplification_preserves_meaning
  refine ⟨?_, ?_, ?_⟩
  · refine (unions _ (by simp) ?_ .null).mpr ⟨scalar .null, by simp, rfl⟩
    simp [scalars .int (by decide), scalars .null (by decide)]
  · refine equals _ _ (pair (by decide) (by decide) (by decide))
      (pair (by decide) (by decide) (by decide)) ?_ .null
    cbv
  · have read : ofDocument [("bsonType", .array [.string "int", .string "null"])] =
        .ok (anyOf [scalar .int, scalar .null]) := by cbv
    exact (nodes _ _ read (by decide)).1 "null" (by decide)

end BsonTable.Schema
