import BsonTable.Proofs.Schema.Alike
import Mathlib.Data.List.Permutation
import Mathlib.Logic.Relation

/-! The spelling of a schema document does not count: respelled, it is read as the same schema. -/

namespace BsonTable

/-- Fields with distinct keys are found alike in any order. -/
theorem Fields.get?_perm {α : Type u} {left right : Fields α} (once : (keys left).Nodup)
    (moved : left.Perm right) (key : String) : get? key left = get? key right := by
  have once' : (keys right).Nodup := (moved.map Prod.fst).nodup_iff.mp once
  -- A key that is found is found with the same value, as no other field has it.
  cases found : get? key left with
  | some value => exact (get?_of_mem once' (moved.mem_iff.mp (mem_of_get? found))).symm
  | none =>
    -- The keys were moved along, so none was added.
    have absent : key ∉ keys right := fun inside =>
      get?_eq_none_iff.mp found ((moved.map Prod.fst).mem_iff.mpr inside)
    exact (get?_eq_none_iff.mpr absent).symm

namespace Schema

/-- A rewrite of a schema document, at its top or at any schema inside it. -/
inductive Respelling : Document → Document → Prop
  /-- The keys of a node are put in another order. -/
  | keys {doc doc' : Document} (once : (Fields.keys doc).Nodup) (moved : doc.Perm doc') :
      Respelling doc doc'
  /-- The entries of a list are put in another order, or are repeated. -/
  | entries {doc : Document} {key : String} {listed listed' : List Value}
      (inside : key ∈ ["bsonType", "anyOf", "required"])
      (found : Fields.get? key doc = some (.array listed))
      (same : ∀ value, value ∈ listed ↔ value ∈ listed') :
      Respelling doc (Fields.insert key (.array listed') doc)
  /-- The properties of a node are put in another order. -/
  | properties {doc fields fields' : Document}
      (found : Fields.get? "properties" doc = some (.document fields))
      (once : (Fields.keys fields).Nodup) (moved : fields.Perm fields') :
      Respelling doc (Fields.insert "properties" (.document fields') doc)
  /-- Some alternatives are gathered in one. -/
  | gather {doc : Document} {before gathered after : List Value}
      (found : Fields.get? "anyOf" doc = some (.array (before ++ gathered ++ after)))
      (nonempty : gathered ≠ []) :
      Respelling doc (Fields.insert "anyOf"
        (.array (before ++ .document [("anyOf", .array gathered)] :: after)) doc)
  /-- A node of several types becomes a node with an alternative for each of them. -/
  | split {doc : Document} {names : List String}
      (found : Fields.get? "bsonType" doc = some (.array (names.map .string)))
      (unlisted : Fields.get? "anyOf" doc = none) :
      Respelling doc [("anyOf", .array (names.map fun name => .document (withOnlyType name doc)))]
  /-- A schema in a list is rewritten. -/
  | listed {doc sub sub' : Document} {key : String} {before after : List Value}
      (inside : key ∈ ["anyOf", "items"])
      (found : Fields.get? key doc = some (.array (before ++ .document sub :: after)))
      (part : Respelling sub sub') :
      Respelling doc (Fields.insert key (.array (before ++ .document sub' :: after)) doc)
  /-- The schema of a property is rewritten. -/
  | property {doc sub sub' before after : Document} {name : String}
      (found : Fields.get? "properties" doc =
        some (.document (before ++ (name, .document sub) :: after)))
      (once : (Fields.keys (before ++ (name, .document sub) :: after)).Nodup)
      (part : Respelling sub sub') :
      Respelling doc (Fields.insert "properties"
        (.document (before ++ (name, .document sub') :: after)) doc)
  /-- A schema that stands alone under its keyword is rewritten. -/
  | alone {doc sub sub' : Document} {key : String}
      (inside : key ∈ ["items", "additionalProperties"])
      (found : Fields.get? key doc = some (.document sub)) (part : Respelling sub sub') :
      Respelling doc (Fields.insert key (.document sub') doc)

/-- Different keywords are spelled differently. -/
theorem Keyword.text_injective {left right : Keyword} (same : left.text = right.text) :
    left = right := by
  cases left <;> cases right <;> first | rfl | simp [text] at same

/-- A node whose value of one keyword is replaced by one that says the same is alike. -/
theorem NodesAlike.insert {doc : Document} (keyword : Keyword) {value : Value}
    (say : SayAlike keyword (Fields.get? keyword.text doc) (some value)) :
    NodesAlike doc (Fields.insert keyword.text value doc) := by
  intro other
  -- The new value is found under its own keyword only.
  rw [Fields.get?_insert]
  split
  · rename_i same
    obtain rfl := Keyword.text_injective same
    exact say
  · -- Every other keyword is left with its value.
    exact .same other _

/-- A node is read alike when the value of a keyword is replaced by one that says the same. -/
theorem agree_insert {doc : Document} (keyword : Keyword) {value value' : Value}
    (found : Fields.get? keyword.text doc = some value)
    (say : SayAlike keyword (some value) (some value')) :
    Agree Coincide (ofDocument doc) (ofDocument (Fields.insert keyword.text value' doc)) := by
  rw [← found] at say
  exact (NodesAlike.insert keyword say).agree

section Alternatives

/-- A value read as a schema agrees with itself. -/
theorem readAlternative_self (value : Value) :
    Agree Coincide (readAlternative value) (readAlternative value) := by
  -- Only documents are read, and what they are read as is canonical.
  cases value with
  | document doc => exact .refl fun _ read => .refl (ofDocument_canonical read)
  | _ => exact .error _ _

/-- A property agrees with itself. -/
theorem readProperty_self (property : String × Value) :
    Agree Declared (readProperty property) (readProperty property) := by
  obtain ⟨name, value⟩ := property
  cases value with
  | document doc =>
    exact (readAlternative_self (.document doc)).bind fun _ _ coincide => .ok ⟨rfl, coincide⟩
  | _ => exact .error _ _

/-- Alternatives that match one by one say the same. -/
theorem SayAlike.of_matched {left right : List Value}
    (matched : Matched (fun x y => Agree Coincide (readAlternative x) (readAlternative y))
      left right) : SayAlike .anyOf (some (.array left)) (some (.array right)) := by
  have agree : Agree SameLeaves (ofAlternatives left) (ofAlternatives right) := by
    rw [ofAlternatives_eq_mapM, ofAlternatives_eq_mapM]
    exact SameLeaves.mapM matched
  -- The lists are empty together, as each entry has a match.
  obtain ⟨forth, back⟩ := matched
  match left, right with
  | [], [] => exact .same _ _
  | [], y :: _ =>
    obtain ⟨_, none, _⟩ := back y List.mem_cons_self
    cases none
  | x :: _, [] =>
    obtain ⟨_, none, _⟩ := forth x List.mem_cons_self
    cases none
  | _ :: _, _ :: _ => exact .alternatives ⟨nofun, nofun⟩ agree

/-- What is read from the elements of a list that is not empty is a union. -/
theorem mapM_union {α : Type} (doc : Document) {elements : List α} (nonempty : elements ≠ [])
    (read : α → Except Error Schema) :
    (elements.mapM read >>= ofBranches doc) =
      elements.mapM read >>= fun branches => return union branches := by
  -- Once the first element is read, there is a branch to unite.
  match elements, nonempty with
  | first :: rest, _ =>
    rw [List.mapM_cons]
    cases read first with
    | error _ => rfl
    | ok branch =>
      simp only [Bind.bind, Except.bind]
      cases rest.mapM read <;> rfl

/-- A node with nothing but alternatives is their union. -/
theorem ofDocument_alternatives {alternatives : List Value} (nonempty : alternatives ≠ []) :
    ofDocument [("anyOf", .array alternatives)] =
      ofAlternatives alternatives >>= fun branches => return union branches := by
  have typed : typedBranches [("anyOf", .array alternatives)] = .ok [] := by
    rw [typedBranches_eq]
    rfl
  have listed : listedBranches [("anyOf", .array alternatives)] = ofAlternatives alternatives := by
    rw [listedBranches_eq]
    match alternatives, nonempty with
    | _ :: _, _ => rfl
  -- Without type names, the branches are the alternatives alone.
  rw [ofDocument_eq, typed, listed, ofAlternatives_eq_mapM, ← mapM_union _ nonempty]
  rfl

/-- A node with a list of type names and no alternatives is the union of their branches. -/
theorem ofDocument_names {doc : Document} {names : List Value} (nonempty : names ≠ [])
    (found : Fields.get? "bsonType" doc = some (.array names))
    (unlisted : Fields.get? "anyOf" doc = none) :
    ofDocument doc = names.mapM (readName doc) >>= fun branches => return union branches := by
  have typed : typedBranches doc = names.mapM (readName doc) := by
    rw [typedBranches_eq, found]
    match names, nonempty with
    | _ :: _, _ => rfl
  have listed : listedBranches doc = .ok [] := by
    rw [listedBranches_eq, unlisted]
  -- Without alternatives, the branches are those of the names alone.
  rw [ofDocument_eq, typed, listed, ← mapM_union doc nonempty]
  simp only [Bind.bind, Except.bind, List.append_nil]

/-- A node narrowed to one type name is read as the branch of that name, or fails like it. -/
theorem ofDocument_withOnlyType_eq (name : String) (doc : Document) :
    ofDocument (withOnlyType name doc) = ofTypeName name doc := by
  cases read : ofTypeName name doc with
  | ok branch => exact ofDocument_withOnlyType read
  | error failure =>
    -- The branch is read from the narrowed node as well, and fails there first.
    have typed : typedBranches (withOnlyType name doc) = .error failure := by
      have found : Fields.get? "bsonType" (withOnlyType name doc) = some (.string name) := by
        simp [withOnlyType, Fields.get?_insert]
      rw [typedBranches_eq, found]
      dsimp only
      rw [ofTypeName_withOnlyType, read]
      rfl
    rw [ofDocument_eq, typed]
    rfl

/-- Lists that say the same part by part do so when they are joined. -/
theorem mapM_append_agree {f : Value → Except Error Schema} {left left' right right' : List Value}
    (first : Agree SameLeaves (left.mapM f) (right.mapM f))
    (second : Agree SameLeaves (left'.mapM f) (right'.mapM f)) :
    Agree SameLeaves ((left ++ left').mapM f) ((right ++ right').mapM f) := by
  -- Both lists fail in the first part, or else in the second, or not at all.
  rw [List.mapM_append, List.mapM_append]
  refine first.bind fun branches branches' same => ?_
  refine second.bind fun branches branches' same' => ?_
  exact .ok (same.append same')

/-- Alternatives have the same leaves as themselves. -/
theorem mapM_self (values : List Value) :
    Agree SameLeaves (values.mapM readAlternative) (values.mapM readAlternative) :=
  SameLeaves.mapM (.of_mem_iff readAlternative_self fun _ => Iff.rfl)

/-- Gathered alternatives have the leaves that they had before. -/
theorem gathered_agree {gathered : List Value} (nonempty : gathered ≠ []) :
    Agree SameLeaves (gathered.mapM readAlternative)
      ([.document [("anyOf", .array gathered)]].mapM readAlternative) := by
  -- The node around them is one branch, the union of what is read from them.
  have self := mapM_self gathered
  have whole : [Value.document [("anyOf", .array gathered)]].mapM readAlternative =
      gathered.mapM readAlternative >>= fun branches => return [union branches] := by
    rw [List.mapM_cons, readAlternative, ofDocument_alternatives nonempty, ofAlternatives_eq_mapM]
    cases gathered.mapM readAlternative <;> rfl
  rw [whole]
  cases read : gathered.mapM readAlternative with
  | error failure => exact .error _ _
  | ok branches =>
    rw [read] at self
    have canonical := (self.linked rfl rfl).first
    refine .ok (.of_union canonical ?_)
    -- There are as many branches as alternatives, and so at least one.
    rintro rfl
    exact nonempty (List.forall₂_nil_right_iff.mp (mapM_eq_ok_iff.mp read))

/-- A node of several types is read as a node with an alternative for each of them. -/
theorem split_agree {doc : Document} {names : List String}
    (found : Fields.get? "bsonType" doc = some (.array (names.map .string)))
    (unlisted : Fields.get? "anyOf" doc = none) :
    Agree Coincide (ofDocument doc) (ofDocument
      [("anyOf", .array (names.map fun name => .document (withOnlyType name doc)))]) := by
  cases names with
  | nil =>
    -- Without a type name, neither node is read.
    rw [ofDocument_eq, ofDocument_eq, typedBranches_eq, typedBranches_eq, listedBranches_eq,
      listedBranches_eq, found, unlisted]
    exact .error _ _
  | cons first rest =>
    have nonempty : ∀ f : String → Value, (first :: rest).map f ≠ [] := by simp
    rw [ofDocument_names (nonempty _) found unlisted, ofDocument_alternatives (nonempty _),
      ofAlternatives_eq_mapM]
    -- Each alternative is read as the branch of its name, with all the other keywords.
    have narrowed : ∀ name, Agree Coincide (readName doc (.string name))
        (readAlternative (.document (withOnlyType name doc))) := by
      intro name
      rw [readName, readAlternative, ofDocument_withOnlyType_eq]
      exact .refl fun _ read => .refl (ofTypeName_canonical read (below_canonical doc))
    have matched : Matched (fun x y => Agree Coincide (readName doc x) (readAlternative y))
        ((first :: rest).map .string)
        ((first :: rest).map fun name => .document (withOnlyType name doc)) := by
      constructor <;> intro value inside <;> obtain ⟨name, member, rfl⟩ := List.mem_map.mp inside
      · exact ⟨_, List.mem_map.mpr ⟨name, member, rfl⟩, narrowed name⟩
      · exact ⟨_, List.mem_map.mpr ⟨name, member, rfl⟩, narrowed name⟩
    -- So the two unions have the same leaves.
    exact (SameLeaves.mapM matched).bind fun _ _ same => .ok same.union

end Alternatives

/-- A rewrite of a node changes neither whether it is read nor as which schema. -/
theorem Respelling.agree {doc doc' : Document} (step : Respelling doc doc') :
    Agree Coincide (ofDocument doc) (ofDocument doc') := by
  -- The induction is on where the rewrite takes place; all but two replace what a keyword says.
  induction step with
  | keys once moved =>
    -- Every keyword is found with the value that it had.
    refine NodesAlike.agree fun keyword => ?_
    rw [Fields.get?_perm once moved]
    exact .same keyword _
  | entries inside found same =>
    simp only [List.mem_cons, List.not_mem_nil, or_false] at inside
    rcases inside with rfl | rfl | rfl
    · exact agree_insert .bsonType found (.names same)
    · exact agree_insert .anyOf found (.of_matched (.of_mem_iff readAlternative_self same))
    · exact agree_insert .required found (.required same)
  | @properties doc fields fields' found once moved =>
    -- Properties are told apart by name, so their names have to stay distinct.
    have once' : (Fields.keys fields').Nodup := (moved.map Prod.fst).nodup_iff.mp once
    exact agree_insert .properties found
      (.properties ⟨once, once'⟩ (.of_mem_iff readProperty_self fun _ => moved.mem_iff))
  | @gather doc before gathered after found nonempty =>
    refine agree_insert .anyOf found (.alternatives ⟨by simp [nonempty], by simp⟩ ?_)
    -- What comes before and after is read as it was.
    rw [ofAlternatives_eq_mapM, ofAlternatives_eq_mapM, List.append_cons]
    exact mapM_append_agree (mapM_append_agree (mapM_self before) (gathered_agree nonempty))
      (mapM_self after)
  | split found unlisted => exact split_agree found unlisted
  | @listed doc sub sub' key before after inside found part ih =>
    simp only [List.mem_cons, List.not_mem_nil, or_false] at inside
    rcases inside with rfl | rfl
    · refine agree_insert .anyOf found (.of_matched (.replace readAlternative_self ?_ before after))
      exact ih
    · -- Items that are listed by position are not looked at.
      exact agree_insert .items found (.positions _ _)
  | @property doc sub sub' before after name found once part ih =>
    -- The property keeps its name, so the names stay distinct here too.
    have once' : (Fields.keys (before ++ (name, .document sub') :: after)).Nodup := by
      simpa [Fields.keys] using once
    refine agree_insert .properties found
      (.properties ⟨once, once'⟩ (.replace readProperty_self ?_ before after))
    exact ih.bind fun _ _ coincide => .ok ⟨rfl, coincide⟩
  | alone inside found part ih =>
    simp only [List.mem_cons, List.not_mem_nil, or_false] at inside
    rcases inside with rfl | rfl
    · exact agree_insert .items found (.items ih)
    · -- A schema for undeclared fields only tells that they are allowed.
      exact agree_insert .additionalProperties found (.additional _ _)

/-- Rewritten any number of times, either way, a document is read alike. -/
theorem agree_of_respelled {doc doc' : Document} (respelled : Relation.EqvGen Respelling doc doc') :
    Agree Coincide (ofDocument doc) (ofDocument doc') := by
  induction respelled with
  | rel doc doc' step => exact step.agree
  | refl doc => exact .refl fun _ read => .refl (ofDocument_canonical read)
  -- Coinciding is symmetric and transitive, as the schemas involved are canonical.
  | symm doc doc' _ ih => exact ih.symm.imp fun _ _ _ _ coincide => coincide.symm
  | trans doc middle doc' _ _ first second => exact first.trans (fun _ _ _ => .trans) second

/--
Respelled documents are read together, as schemas that are the same.

Any number of rewrites may be made either way, at any schema inside the document.
-/
theorem spelling_independence {doc doc' : Document}
    (respelled : Relation.EqvGen Respelling doc doc') :
    ((∃ schema, ofDocument doc = .ok schema) ↔ ∃ schema, ofDocument doc' = .ok schema) ∧
      ∀ schema schema', ofDocument doc = .ok schema → ofDocument doc' = .ok schema' →
        schema.same schema' = true := by
  have agree := agree_of_respelled respelled
  refine ⟨agree.succeeds_iff, ?_⟩
  intro schema schema' read read'
  exact (agree.linked read read').same

/-- An optional number in a document is the same, whether its types or its nodes are listed. -/
theorem spelling_independence_optional :
    let node (age : Document) : Document :=
      [("bsonType", .string "object"), ("properties", .document [("age", .document age)])]
    let types : Document := [("bsonType", .array [.string "int", .string "null"])]
    let nodes : Document := [("anyOf", .array
      [.document [("bsonType", .string "null")], .document [("bsonType", .string "int")]])]
    let schema (branches : List Schema) : Schema := object [("age", anyOf branches)] [] false
    ofDocument (node types) = .ok (schema [scalar .int, scalar .null]) ∧
      ofDocument (node nodes) = .ok (schema [scalar .null, scalar .int]) ∧
      (schema [scalar .int, scalar .null]).same (schema [scalar .null, scalar .int]) = true := by
  intro node types nodes schema
  let ordered : Document := [("anyOf", .array
    [.document [("bsonType", .string "int")], .document [("bsonType", .string "null")]])]
  have split : Respelling types ordered := by
    have step : Respelling types [("anyOf", .array
      (["int", "null"].map fun name => .document (withOnlyType name types)))] := .split rfl rfl
    exact step
  have swap : Respelling ordered nodes := by
    have step : Respelling ordered (Fields.insert "anyOf" (.array
      [.document [("bsonType", .string "null")], .document [("bsonType", .string "int")]])
      ordered) := .entries (by simp) rfl (by simp [or_comm])
    exact step
  have inside : ∀ {age age'}, Respelling age age' → Respelling (node age) (node age') := by
    intro age age' part
    have step : Respelling (node age) (Fields.insert "properties"
      (.document ([] ++ ("age", .document age') :: [])) (node age)) :=
      .property rfl (List.nodup_singleton _) part
    exact step
  have first : ofDocument (node types) = .ok (schema [scalar .int, scalar .null]) := by cbv
  have second : ofDocument (node nodes) = .ok (schema [scalar .null, scalar .int]) := by cbv
  have independent := spelling_independence
    (.trans _ _ _ (.rel _ _ (inside split)) (.rel _ _ (inside swap)))
  exact ⟨first, second, independent.2 _ _ first second⟩

end Schema

end BsonTable
