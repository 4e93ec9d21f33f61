import BsonTable.Library.Standard
import BsonTable.Proofs.Schema.Respelling
import BsonTable.Schema.OfJson
import Mathlib.Algebra.Ring.Int.Defs

/-!
Keys that no schema reads do not matter, wherever they stand. Only in JSON may they be in the way, as
all of it is turned into values before any of it is read.
-/

namespace BsonTable

/-- Trees that are made of lists and of nodes with fields. -/
class Nesting (α : Type) where
  list : List α → α
  node : Fields α → α

instance : Nesting Value := ⟨.array, .document⟩

instance : Nesting Json := ⟨.array, .object⟩

/-- A schema with a hole in place of one of the schemas right inside it. -/
inductive Hole (α : Type) where
  /-- One of the listed alternatives. -/
  | alternative (before : Fields α) (left right : List α) (after : Fields α)
  /-- The schema of one of the properties. -/
  | property (before left : Fields α) (name : String) (right after : Fields α)
  /-- The schema of all items. -/
  | items (before after : Fields α)

namespace Hole

variable {α : Type} [Nesting α]

/-- The schema around a hole with a schema in it. -/
def fill : Hole α → Fields α → Fields α
  | alternative before left right after, sub =>
    before ++ ("anyOf", Nesting.list (left ++ Nesting.node sub :: right)) :: after
  | property before left name right after, sub =>
    before ++ ("properties", Nesting.node (left ++ (name, Nesting.node sub) :: right)) :: after
  | items before after, sub => before ++ ("items", Nesting.node sub) :: after

/-- The nodes around a hole with a schema in it, of which properties have one of their own. -/
def nodes : Hole α → Fields α → List (Fields α)
  -- Properties are a node as well, of which the schema in the hole is only one of the members.
  | property before left name right after, sub =>
    [fill (property before left name right after) sub, left ++ (name, Nesting.node sub) :: right]
  | hole, sub => [hole.fill sub]

/-- A schema in the innermost one of some holes. -/
def nest (holes : List (Hole α)) (sub : Fields α) : Fields α :=
  holes.foldr fill sub

/-- All nodes that are passed on the way to a schema in the innermost one of some holes. -/
def path : List (Hole α) → Fields α → List (Fields α)
  | [], sub => [sub]
  | hole :: holes, sub => hole.nodes (nest holes sub) ++ path holes sub

/-- The outermost node is passed first. -/
theorem nest_mem_path (holes : List (Hole α)) (sub : Fields α) :
    nest holes sub ∈ path holes sub := by
  cases holes with
  | nil => exact List.mem_singleton_self _
  | cons hole holes => cases hole <;> exact List.mem_cons_self

end Hole

section Around

variable {α : Type} {key other : String} (before : Fields α) (value : α) (after : Fields α)

/-- A key is looked up in one part of the fields first. -/
theorem Fields.get?_append (key : String) (left right : Fields α) :
    get? key (left ++ right) = (get? key left).or (get? key right) := by
  -- The fields in front are searched in turn, and the first one with the key settles it.
  induction left with
  | nil => rfl
  | cons field rest ih =>
    obtain ⟨name, first⟩ := field
    by_cases same : name = key
    · simp [get?, same]
    · simp [get?, same, ih]

/-- A field in the midst is found behind those before it. -/
theorem Fields.get?_around :
    get? key (before ++ (key, value) :: after) = (get? key before).or (some value) := by
  -- What is found before the field hides it.
  rw [get?_append, get?, if_pos rfl]

/-- A field in the midst is not found under another key. -/
theorem Fields.get?_around_of_ne (different : key ≠ other) :
    get? other (before ++ (key, value) :: after) = get? other (before ++ after) := by
  rw [get?_append, get?_append, get?, if_neg different]

end Around

namespace Schema

section Documents

variable {left right doc doc' sub sub' : Document}

/-- Whether two nodes are read the same as far as one keyword is concerned. -/
def ReadSame (left right : Document) : Keyword → Prop
  | .bsonType => Fields.get? "bsonType" left = Fields.get? "bsonType" right
  | .anyOf => listedBranches left = listedBranches right
  | .properties => propertiesOf left = propertiesOf right ∧
      (Fields.get? "properties" left).isSome = (Fields.get? "properties" right).isSome
  | .required => requiredOf left = requiredOf right
  | .additionalProperties => additionalOf left = additionalOf right
  | .items => itemsOf left = itemsOf right

/-- What a keyword says depends on its value alone. -/
theorem ReadSame.of_get? {keyword : Keyword}
    (same : Fields.get? keyword.text left = Fields.get? keyword.text right) :
    ReadSame left right keyword := by
  -- Each part of the reading looks its keyword up once, and sees nothing else of the node.
  cases keyword with
  | bsonType => exact same
  | anyOf =>
    have same : Fields.get? "anyOf" left = Fields.get? "anyOf" right := same
    rw [ReadSame, listedBranches_eq, listedBranches_eq, same]
  | properties =>
    have same : Fields.get? "properties" left = Fields.get? "properties" right := same
    rw [ReadSame, propertiesOf_eq, propertiesOf_eq, same]
    exact ⟨rfl, rfl⟩
  | required =>
    have same : Fields.get? "required" left = Fields.get? "required" right := same
    rw [ReadSame, requiredOf, requiredOf, same]
  | additionalProperties =>
    have same : Fields.get? "additionalProperties" left =
      Fields.get? "additionalProperties" right := same
    rw [ReadSame, additionalOf, additionalOf, same]
  | items =>
    have same : Fields.get? "items" left = Fields.get? "items" right := same
    rw [ReadSame, itemsOf_eq, itemsOf_eq, same]

/-- Nodes that are read the same under every keyword are read the same. -/
theorem ofDocument_congr (same : ∀ keyword, ReadSame left right keyword) :
    ofDocument left = ofDocument right := by
  have names : Fields.get? "bsonType" left = Fields.get? "bsonType" right := same .bsonType
  have listed : listedBranches left = listedBranches right := same .anyOf
  obtain ⟨properties, declares⟩ := same .properties
  have items : itemsOf left = itemsOf right := same .items
  -- What an object and an array are read as is settled first, then what the names of types are.
  have object : objectOf left = objectOf right := by
    have required : requiredOf left = requiredOf right := same .required
    have additional : additionalOf left = additionalOf right := same .additionalProperties
    rw [objectOf, objectOf, properties, required, additional]
  have typeName (name : String) : ofTypeName name left = ofTypeName name right := by
    rw [ofTypeName, ofTypeName, object, items]
  have typed : typedBranches left = typedBranches right := by
    have read : readName left = readName right := by
      -- Only texts name a type, so the readings of all other values are the same anyway.
      funext value
      cases value with
      | string name => exact typeName name
      | _ => rfl
    rw [typedBranches_eq, typedBranches_eq, names, read]
    simp only [typeName]
  have branches : ofBranches left = ofBranches right := by
    -- With no alternatives at all, the node is an object or anything, by whether it has properties.
    funext branches
    cases branches with
    | nil => rw [ofBranches, ofBranches, declares, object]
    | cons => rfl
  rw [ofDocument_eq, ofDocument_eq, typed, listed, branches]

/-- A node is read the same with another value of one keyword, if that is read the same. -/
theorem ofDocument_around (keyword : Keyword) {before after : Document} {value value' : Value}
    (same : Fields.get? keyword.text before = none →
      ReadSame (before ++ (keyword.text, value) :: after) (before ++ (keyword.text, value') :: after)
        keyword) :
    ofDocument (before ++ (keyword.text, value) :: after) =
      ofDocument (before ++ (keyword.text, value') :: after) := by
  refine ofDocument_congr fun other => ?_
  -- Under another keyword nothing has changed; under this one, only its first value counts.
  by_cases asked : keyword = other
  · subst asked
    cases first : Fields.get? keyword.text before with
    | none => exact same first
    | some =>
      -- The value is hidden by an earlier one of the same keyword.
      refine .of_get? ?_
      rw [Fields.get?_around, Fields.get?_around, first, Option.some_or, Option.some_or]
  · have different : keyword.text ≠ other.text := fun same => asked (Keyword.text_injective same)
    refine .of_get? ?_
    rw [Fields.get?_around_of_ne _ _ _ different, Fields.get?_around_of_ne _ _ _ different]

/-- A schema is read the same around schemas that are read the same. -/
theorem ofDocument_fill (same : ofDocument sub = ofDocument sub') (hole : Hole Value) :
    ofDocument (hole.fill sub) = ofDocument (hole.fill sub') := by
  cases hole with
  | alternative before left right after =>
    refine ofDocument_around .anyOf fun first => ?_
    -- The alternatives are read in turn, so those around the changed one do not notice.
    have read : ofAlternatives (left ++ .document sub :: right) =
        ofAlternatives (left ++ .document sub' :: right) := by
      simp only [ofAlternatives_eq_mapM, List.mapM_append, List.mapM_cons, readAlternative, same]
    show listedBranches _ = listedBranches _
    rw [listedBranches_eq, listedBranches_eq]
    dsimp only [Keyword.text] at first ⊢
    rw [Fields.get?_around, Fields.get?_around, first]
    -- The lists are not empty, whichever alternative comes first.
    cases left with
    | nil => exact read
    | cons => exact read
  | property before left name right after =>
    refine ofDocument_around .properties fun first => ⟨?_, ?_⟩
    · -- Likewise for the properties, each of which is read with its name.
      have read : ofProperties (left ++ (name, .document sub) :: right) =
          ofProperties (left ++ (name, .document sub') :: right) := by
        simp only [ofProperties_eq_mapM, List.mapM_append, List.mapM_cons, readProperty, same]
      rw [propertiesOf_eq, propertiesOf_eq]
      dsimp only [Keyword.text] at first ⊢
      rw [Fields.get?_around, Fields.get?_around, first]
      exact congrArg (· >>= fun pairs => pure (Fields.ofPairs pairs)) read
    · -- Whether there are properties at all is not a matter of what they are.
      dsimp only [Keyword.text] at first ⊢
      rw [Fields.get?_around, Fields.get?_around, first]
      rfl
  | items before after =>
    refine ofDocument_around .items fun first => ?_
    show itemsOf _ = itemsOf _
    rw [itemsOf_eq, itemsOf_eq]
    dsimp only [Keyword.text] at first ⊢
    -- The schema of the items is itself the value of the keyword.
    rw [Fields.get?_around, Fields.get?_around, first]
    exact same

/-- A key that is no keyword does not matter to the node that it is added to. -/
theorem ofDocument_unread {key : String} (unread : ∀ keyword : Keyword, key ≠ keyword.text)
    (before : Document) (value : Value) (after : Document) :
    ofDocument (before ++ (key, value) :: after) = ofDocument (before ++ after) :=
  ofDocument_congr fun keyword =>
    .of_get? (Fields.get?_around_of_ne before value after (unread keyword))

/-- Nor does it matter to the schemas around that node. -/
theorem ofDocument_nest_unread {key : String} (unread : ∀ keyword : Keyword, key ≠ keyword.text)
    (holes : List (Hole Value)) (before : Document) (value : Value) (after : Document) :
    ofDocument (Hole.nest holes (before ++ (key, value) :: after)) =
      ofDocument (Hole.nest holes (before ++ after)) := by
  -- From the inside out, every hole is filled with something that is read the same.
  induction holes with
  | nil => exact ofDocument_unread unread before value after
  | cons hole holes ih => exact ofDocument_fill ih hole

end Documents

end Schema

/-- Whether an integer stands somewhere in a tree. -/
inductive Json.Holds (integer : Int) : Json → Prop
  | here : Holds integer (.int integer)
  | element {elements : List Json} {element : Json} (inside : element ∈ elements)
      (part : Holds integer element) : Holds integer (.array elements)
  | member {members : Fields Json} {key : String} {value : Json} (inside : (key, value) ∈ members)
      (part : Holds integer value) : Holds integer (.object members)

/-- Whether no integer in a tree is too large for 64 bits with a sign. -/
def Json.Fits (tree : Json) : Prop :=
  ∀ integer, tree.Holds integer → integer < 2 ^ 63

namespace ExtendedJson

section Fits

/-- A list fits when its elements do. -/
theorem fits_array_iff {elements : List Json} :
    (Json.array elements).Fits ↔ ∀ element ∈ elements, element.Fits :=
  ⟨fun fits _ inside integer part => fits integer (.element inside part),
    fun fits integer => fun | .element inside part => fits _ inside integer part⟩

/-- A node fits when its members do. -/
theorem fits_object_iff {members : Fields Json} :
    (Json.object members).Fits ↔ ∀ member ∈ members, member.2.Fits :=
  ⟨fun fits _ inside integer part => fits integer (.member inside part),
    fun fits integer => fun | .member inside part => fits _ inside integer part⟩

mutual

/-- Exactly the trees that fit can be converted. -/
theorem ofJson_succeeds_iff [ExtendedJsonLibrary] (tree : Json) :
    (∃ value, ofJson tree = .ok value) ↔ tree.Fits := by
  -- A tree fails only where it is an integer, or where a part of it does.
  cases tree with
  | array elements =>
    rw [fits_array_iff, ← ofElements_succeeds_iff elements, ofJson]
    cases ofElements elements <;> simp [Except.map]
  | object members =>
    rw [fits_object_iff, ← ofMembers_succeeds_iff members, ofJson]
    cases ofMembers members <;> simp [Except.map]
  | int integer =>
    have fits : (Json.int integer).Fits ↔ integer < 2 ^ 63 :=
      ⟨fun fits => fits integer .here, fun small _ => fun | .here => small⟩
    rw [fits, ofJson]
    -- The bound is the only test that is made.
    split
    · rename_i small
      exact iff_of_true ⟨_, rfl⟩ small
    · rename_i large
      exact iff_of_false nofun large
  | _ => exact iff_of_true ⟨_, rfl⟩ nofun

/-- Elements can be converted when each of them can. -/
theorem ofElements_succeeds_iff [ExtendedJsonLibrary] (elements : List Json) :
    (∃ values, ofElements elements = .ok values) ↔ ∀ element ∈ elements, element.Fits := by
  cases elements with
  | nil => exact iff_of_true ⟨_, rfl⟩ nofun
  | cons element rest =>
    -- All elements are converted before the list is, so each one of them has to succeed.
    rw [List.forall_mem_cons, ← ofJson_succeeds_iff element, ← ofElements_succeeds_iff rest,
      ofElements]
    cases ofJson element <;> cases ofElements rest <;>
      simp [Bind.bind, Except.bind, Pure.pure, Except.pure]

/-- Members can be converted when each of their values can. -/
theorem ofMembers_succeeds_iff [ExtendedJsonLibrary] (members : Fields Json) :
    (∃ doc, ofMembers members = .ok doc) ↔ ∀ member ∈ members, member.2.Fits := by
  cases members with
  | nil => exact iff_of_true ⟨_, rfl⟩ nofun
  | cons member rest =>
    -- As for elements; the keys play no part in it.
    rw [List.forall_mem_cons, ← ofJson_succeeds_iff member.2, ← ofMembers_succeeds_iff rest,
      ofMembers]
    cases ofJson member.2 <;> cases ofMembers rest <;>
      simp [Bind.bind, Except.bind, Pure.pure, Except.pure]

end

end Fits

/-- Two conversions that fail alike, or succeed with linked results. -/
inductive Both {α β : Type} (link : α → β → Prop) : Except String α → Except String β → Prop
  | ok {left : α} {right : β} (linked : link left right) : Both link (.ok left) (.ok right)
  | error (reason : String) : Both link (.error reason) (.error reason)

namespace Both

variable {α β γ δ : Type} {link : α → β → Prop} {link' : γ → δ → Prop} {left : Except String α}
  {right : Except String β}

/-- What is done alike may be followed by what is done alike with linked results. -/
theorem bind {first : α → Except String γ} {second : β → Except String δ}
    (both : Both link left right) (next : ∀ a b, link a b → Both link' (first a) (second b)) :
    Both link' (left >>= first) (right >>= second) := by
  -- A failure is passed on by both sides as it is.
  cases both with
  | ok linked => exact next _ _ linked
  | error reason => exact .error reason

/-- Something may be made of the results that keeps them linked. -/
theorem map {f : α → γ} {g : β → δ} (both : Both link left right)
    (linked : ∀ a b, left = .ok a → right = .ok b → link a b → link' (f a) (g b)) :
    Both link' (left.map f) (right.map g) := by
  cases both with
  | ok link => exact .ok (linked _ _ rfl rfl link)
  | error reason => exact .error reason

/-- Links may be replaced by ones that they imply. -/
theorem imp {link' : α → β → Prop} (both : Both link left right)
    (implied : ∀ a b, link a b → link' a b) : Both link' left right := by
  cases both with
  | ok linked => exact .ok (implied _ _ linked)
  | error reason => exact .error reason

/-- A step in common may come first. -/
theorem after {step : Except String γ} {first : γ → Except String α} {second : γ → Except String β}
    (next : ∀ c, Both link (first c) (second c)) : Both link (step >>= first) (step >>= second) := by
  cases step with
  | ok c => exact next c
  | error reason => exact .error reason

end Both

/-- Elements are converted part by part. -/
theorem ofElements_append [ExtendedJsonLibrary] (left right : List Json) :
    ofElements (left ++ right) =
      ofElements left >>= fun first => ofElements right >>= fun second => .ok (first ++ second) := by
  -- The induction is on the first part; the parts may fail in this order only.
  induction left with
  | nil =>
    rw [List.nil_append, ofElements]
    cases ofElements right <;> rfl
  | cons element rest ih =>
    rw [List.cons_append, ofElements, ofElements, ih]
    cases ofJson element <;> cases ofElements rest <;> cases ofElements right <;> rfl

/-- Members are converted part by part. -/
theorem ofMembers_append [ExtendedJsonLibrary] (left right : List (String × Json)) :
    ofMembers (left ++ right) =
      ofMembers left >>= fun first => ofMembers right >>= fun second => .ok (first ++ second) := by
  -- As for elements; the keys are kept.
  induction left with
  | nil =>
    rw [List.nil_append, ofMembers]
    cases ofMembers right <;> rfl
  | cons member rest ih =>
    obtain ⟨key, value⟩ := member
    rw [List.cons_append, ofMembers, ofMembers, ih]
    cases ofJson value <;> cases ofMembers rest <;> cases ofMembers right <;> rfl

/-- An element is converted behind those before it. -/
theorem ofElements_around [ExtendedJsonLibrary] (left : List Json) (element : Json)
    (right : List Json) :
    ofElements (left ++ element :: right) =
      ofElements left >>= fun first => ofJson element >>= fun value =>
        ofElements right >>= fun second => .ok (first ++ value :: second) := by
  -- The element is the first one of the second part.
  rw [ofElements_append, ofElements]
  cases ofElements left <;> cases ofJson element <;> cases ofElements right <;> rfl

/-- A member is converted behind those before it. -/
theorem ofMembers_around [ExtendedJsonLibrary] (before : List (String × Json)) (key : String)
    (value : Json) (after : List (String × Json)) :
    ofMembers (before ++ (key, value) :: after) =
      ofMembers before >>= fun first => ofJson value >>= fun value =>
        ofMembers after >>= fun second => .ok (first ++ (key, value) :: second) := by
  rw [ofMembers_append, ofMembers]
  cases ofMembers before <;> cases ofJson value <;> cases ofMembers after <;> rfl

/-- Whether a node stands for the document of its members, and for no other value. -/
def StandsForItself [ExtendedJsonLibrary] (members : Fields Json) : Prop :=
  ∀ doc, ofMembers members = .ok doc → ExtendedJsonLibrary.described? doc = none

/-- Documents that differ in a key somewhere inside them. -/
def Differ (key : String) (doc doc' : Document) : Prop :=
  ∃ holes before value after, doc = Hole.nest holes (before ++ after) ∧
    doc' = Hole.nest holes (before ++ (key, value) :: after)

/-- Documents that differ somewhere inside make documents that do. -/
theorem Differ.fill {key : String} {doc doc' : Document} (differ : Differ key doc doc')
    (hole : Hole Value) : Differ key (hole.fill doc) (hole.fill doc') := by
  -- The hole becomes the outermost one.
  obtain ⟨holes, before, value, after, rfl, rfl⟩ := differ
  exact ⟨hole :: holes, before, value, after, rfl, rfl⟩

section Conversion

variable {key : String} {members members' : Fields Json} {value : Json} {link : Value → Value → Prop}

/-- Nodes that stand for themselves are converted to the documents of their members. -/
theorem Both.node [ExtendedJsonLibrary] {link : Document → Document → Prop}
    (both : Both link (ofMembers members) (ofMembers members'))
    (plain : StandsForItself members) (plain' : StandsForItself members') :
    Both (fun value value' => ∃ doc doc', value = .document doc ∧ value' = .document doc' ∧
      link doc doc') (ofJson (.object members)) (ofJson (.object members')) := by
  rw [ofJson, ofJson]
  refine both.map fun doc doc' converted converted' linked => ⟨doc, doc', ?_, ?_, linked⟩
  · rw [ofFields, plain doc converted]
    rfl
  · rw [ofFields, plain' doc' converted']
    rfl

/-- Trees that are converted alike may stand among other ones. -/
theorem Both.around [ExtendedJsonLibrary] {value value' : Json}
    (both : Both link (ofJson value) (ofJson value'))
    (before : Fields Json) (name : String) (after : Fields Json) :
    Both (fun doc doc' => ∃ before value value' after, link value value' ∧
        doc = before ++ (name, value) :: after ∧ doc' = before ++ (name, value') :: after)
      (ofMembers (before ++ (name, value) :: after))
      (ofMembers (before ++ (name, value') :: after)) := by
  rw [ofMembers_around, ofMembers_around]
  exact .after fun _ => both.bind fun _ _ linked => .after fun _ => .ok ⟨_, _, _, _, linked, rfl, rfl⟩

/-- So may elements. -/
theorem Both.listed [ExtendedJsonLibrary] {element element' : Json}
    (both : Both link (ofJson element) (ofJson element')) (left right : List Json) :
    Both (fun values values' => ∃ left value value' right, link value value' ∧
        values = left ++ value :: right ∧ values' = left ++ value' :: right)
      (ofElements (left ++ element :: right)) (ofElements (left ++ element' :: right)) := by
  rw [ofElements_around, ofElements_around]
  exact .after fun _ => both.bind fun _ _ linked => .after fun _ => .ok ⟨_, _, _, _, linked, rfl, rfl⟩

/-- Nodes that differ in a key make nodes that do, wherever they stand. -/
theorem Both.fill [ExtendedJsonLibrary]
    (both : Both (Differ key) (ofMembers members) (ofMembers members'))
    (plain : StandsForItself members) (plain' : StandsForItself members') (hole : Hole Json)
    (around : ∀ node ∈ hole.nodes members, StandsForItself node)
    (around' : ∀ node ∈ hole.nodes members', StandsForItself node) :
    Both (Differ key) (ofMembers (hole.fill members)) (ofMembers (hole.fill members')) := by
  -- Both nodes are documents, and it remains to put them back into what is around them.
  have nodes := both.node plain plain'
  cases hole with
  | alternative before left right after =>
    have lists : Both (fun value value' => ∃ left doc doc' right, Differ key doc doc' ∧
        value = .array (left ++ .document doc :: right) ∧
        value' = .array (left ++ .document doc' :: right))
        (ofJson (.array (left ++ .object members :: right)))
        (ofJson (.array (left ++ .object members' :: right))) := by
      rw [ofJson, ofJson]
      refine (nodes.listed left right).map ?_
      rintro _ _ _ _ ⟨left, _, _, right, ⟨doc, doc', rfl, rfl, differ⟩, rfl, rfl⟩
      exact ⟨left, doc, doc', right, differ, rfl, rfl⟩
    refine (lists.around before "anyOf" after).imp ?_
    rintro _ _ ⟨before, _, _, after, ⟨left, doc, doc', right, differ, rfl, rfl⟩, rfl, rfl⟩
    exact differ.fill (.alternative before left right after)
  | property before left name right after =>
    have inner : Both (fun doc doc' => ∃ left sub sub' right, Differ key sub sub' ∧
        doc = left ++ (name, .document sub) :: right ∧
        doc' = left ++ (name, .document sub') :: right)
        (ofMembers (left ++ (name, .object members) :: right))
        (ofMembers (left ++ (name, .object members') :: right)) := by
      refine (nodes.around left name right).imp ?_
      rintro _ _ ⟨left, _, _, right, ⟨doc, doc', rfl, rfl, differ⟩, rfl, rfl⟩
      exact ⟨left, doc, doc', right, differ, rfl, rfl⟩
    -- The properties are a node of their own.
    have properties := inner.node (around _ (List.mem_cons_of_mem _ List.mem_cons_self))
      (around' _ (List.mem_cons_of_mem _ List.mem_cons_self))
    refine (properties.around before "properties" after).imp ?_
    rintro _ _ ⟨before, _, _, after, ⟨_, _, rfl, rfl, left, doc, doc', right, differ, rfl, rfl⟩, rfl,
      rfl⟩
    exact differ.fill (.property before left name right after)
  | items before after =>
    refine (nodes.around before "items" after).imp ?_
    rintro _ _ ⟨before, _, _, after, ⟨doc, doc', rfl, rfl, differ⟩, rfl, rfl⟩
    exact differ.fill (.items before after)

/-- Where the added value can be converted and every node stands for itself, a key stays a key. -/
theorem ofMembers_nest [ExtendedJsonLibrary] (holes : List (Hole Json)) (before after : Fields Json)
    {converted : Value} (fits : ofJson value = .ok converted)
    (plain : ∀ node ∈ Hole.path holes (before ++ after), StandsForItself node)
    (plain' : ∀ node ∈ Hole.path holes (before ++ (key, value) :: after), StandsForItself node) :
    Both (Differ key) (ofMembers (Hole.nest holes (before ++ after)))
      (ofMembers (Hole.nest holes (before ++ (key, value) :: after))) := by
  -- Each hole is filled in turn, and all nodes on the way stand for themselves.
  induction holes with
  | nil =>
    -- The added value is converted too, but it cannot fail.
    show Both _ (ofMembers (before ++ after)) (ofMembers (before ++ (key, value) :: after))
    rw [ofMembers_append, ofMembers_around, fits]
    exact .after fun before => .after fun after => .ok ⟨[], before, converted, after, rfl, rfl⟩
  | cons hole holes ih =>
    have inner := ih (fun node inside => plain node (List.mem_append_right _ inside))
      (fun node inside => plain' node (List.mem_append_right _ inside))
    exact inner.fill (plain _ (List.mem_append_right _ (Hole.nest_mem_path holes _)))
      (plain' _ (List.mem_append_right _ (Hole.nest_mem_path holes _))) hole
      (fun node inside => plain node (List.mem_append_left _ inside))
      (fun node inside => plain' node (List.mem_append_left _ inside))

/-- An integer of an added value stands in the whole tree. -/
theorem holds_nest {integer : Int} (held : value.Holds integer) (holes : List (Hole Json))
    (before after : Fields Json) :
    (Json.object (Hole.nest holes (before ++ (key, value) :: after))).Holds integer := by
  -- A hole adds members and elements around the integer, and removes nothing.
  induction holes with
  | nil => exact .member List.mem_append_cons_self held
  | cons hole holes ih =>
    cases hole with
    | alternative =>
      exact .member List.mem_append_cons_self (.element List.mem_append_cons_self ih)
    | property =>
      exact .member List.mem_append_cons_self (.member List.mem_append_cons_self ih)
    | items => exact .member List.mem_append_cons_self ih

end Conversion

end ExtendedJson

namespace Schema

/-- A schema that stands for itself is read from its members. -/
theorem ofJson_of_standsForItself [ExtendedJsonLibrary] {members : Fields Json} {doc : Document}
    (plain : ExtendedJson.StandsForItself members)
    (converted : ExtendedJson.ofMembers members = .ok doc) :
    ofJson (.object members) = ofDocument doc := by
  -- The document that the members are converted to is not taken for another value.
  have whole : ExtendedJson.ofJson (.object members) = .ok (.document doc) := by
    rw [ExtendedJson.ofJson, converted]
    show Except.ok (ExtendedJson.ofFields doc) = _
    rw [ExtendedJson.ofFields, plain doc converted]
    rfl
  unfold ofJson
  rw [whole]

/-- A schema in which an integer is too large is refused, wherever the integer stands. -/
theorem ofJson_refused [ExtendedJsonLibrary] {members : Fields Json}
    (large : ¬ (Json.object members).Fits) :
    ∃ reason, ofJson (.object members) = noDocument reason := by
  -- Failing to fit means failing to be converted, and then no document is there to be read.
  rw [← ExtendedJson.ofJson_succeeds_iff] at large
  unfold ofJson
  generalize ExtendedJson.ofJson (.object members) = converted at large ⊢
  cases converted with
  | ok whole => exact absurd ⟨whole, rfl⟩ large
  | error reason => exact ⟨reason, rfl⟩

/--
A key that is no keyword does not matter to a document, whatever its value and wherever it is added:
to the schema itself or to any schema inside it.

Nor does it matter in JSON, as long as no node on the way to it stands for another value than the
document of its members, with or without the key, and no integer in its value is too large; if one
is, the whole schema is refused.
-/
theorem unread_keys_do_not_matter [ExtendedJsonLibrary] (key : String)
    (unread : ∀ keyword : Keyword, key ≠ keyword.text) :
    (∀ (holes : List (Hole Value)) (before after : Document) (value : Value),
      ofDocument (Hole.nest holes (before ++ (key, value) :: after)) =
        ofDocument (Hole.nest holes (before ++ after))) ∧
    ∀ (holes : List (Hole Json)) (before after : Fields Json) (value : Json),
      (value.Fits → (∀ sub ∈ [before ++ after, before ++ (key, value) :: after],
          ∀ node ∈ Hole.path holes sub, ExtendedJson.StandsForItself node) →
        ofJson (.object (Hole.nest holes (before ++ (key, value) :: after))) =
          ofJson (.object (Hole.nest holes (before ++ after)))) ∧
      (¬ value.Fits → ∃ reason, ofJson (.object (Hole.nest holes (before ++ (key, value) :: after))) =
        noDocument reason) := by
  -- The first part is about documents, and the second one reduces to it by converting the trees.
  refine ⟨fun holes before after value => ofDocument_nest_unread unread holes before value after, ?_⟩
  intro holes before after value
  constructor
  · intro fits plain
    obtain ⟨converted, fits⟩ := (ExtendedJson.ofJson_succeeds_iff value).mpr fits
    obtain ⟨plain, plain', _⟩ := List.forall_mem_cons.mp plain |>.imp id List.forall_mem_cons.mp
    have both := (ExtendedJson.ofMembers_nest holes before after fits plain plain').node
      (plain _ (Hole.nest_mem_path holes _)) (plain' _ (Hole.nest_mem_path holes _))
    -- With both conversions at hand, the schemas are read from the documents they lead to.
    unfold ofJson
    generalize ExtendedJson.ofJson (.object (Hole.nest holes (before ++ after))) = without,
      ExtendedJson.ofJson (.object (Hole.nest holes (before ++ (key, value) :: after))) = joined
      at both ⊢
    cases both with
    | error reason => rfl
    | ok documents =>
      obtain ⟨_, _, rfl, rfl, holes, before, value, after, rfl, rfl⟩ := documents
      exact ofDocument_nest_unread unread holes before value after
  · intro large
    exact ofJson_refused fun fits =>
      large fun integer held => fits integer (ExtendedJson.holds_nest held holes before after)

/-- A lower bound of a property does not matter, and an upper bound does where it is too large. -/
theorem unread_bounds_of_property :
    let holes : List (Hole Json) := [.property [] [] "age" [] []]
    let type : String × Json := ("bsonType", .string "int")
    ofJson (.object (Hole.nest holes [type, ("minimum", .int 0)])) =
      ofJson (.object (Hole.nest holes [type])) ∧
    ∃ reason, ofJson (.object (Hole.nest holes [type, ("maximum", .int (2 ^ 63))])) =
      noDocument reason := by
  intro holes type
  have unread (key : String) (other : key = "minimum" ∨ key = "maximum") (keyword : Keyword) :
      key ≠ keyword.text := by
    rcases other with rfl | rfl <;> cases keyword <;> decide
  constructor
  · obtain ⟨_, json⟩ := unread_keys_do_not_matter "minimum" (unread _ (.inl rfl))
    have fits : (Json.int 0).Fits := by
      rintro _ ⟨⟩
      decide
    refine (json holes [type] [] (.int 0)).1 fits ?_
    -- No key on the way begins with a dollar sign, so all nodes stand for themselves.
    refine List.forall_mem_cons.mpr ⟨?_, List.forall_mem_singleton.mpr ?_⟩ <;>
      refine List.forall_mem_cons.mpr ⟨?_, List.forall_mem_cons.mpr ⟨?_,
        List.forall_mem_singleton.mpr ?_⟩⟩ <;>
      · rintro doc ⟨⟩
        rfl
  · obtain ⟨_, json⟩ := unread_keys_do_not_matter "maximum" (unread _ (.inr rfl))
    exact (json holes [type] [] (.int (2 ^ 63))).2 fun fits => lt_irrefl _ (fits _ .here)

/-- A bound is in the way where it is too large, although no schema reads it. -/
theorem large_bound_refused :
    ofJson (.object [("bsonType", .string "int")]) = .ok (.scalar .int) ∧
    (∃ reason, ofJson (.object [("bsonType", .string "int"), ("maximum", .int (2 ^ 63))]) =
      noDocument reason) ∧
    ¬ ∀ key, (∀ keyword : Keyword, key ≠ keyword.text) →
      ∀ (holes : List (Hole Json)) (before after : Fields Json) (value : Json),
        Agree Eq (ofJson (.object (Hole.nest holes (before ++ after))))
          (ofJson (.object (Hole.nest holes (before ++ (key, value) :: after)))) := by
  -- The schema without the bound can be read, and with it cannot.
  have read : ofJson (.object [("bsonType", .string "int")]) = .ok (.scalar .int) := by
    have plain : ExtendedJson.StandsForItself [("bsonType", .string "int")] := by
      rintro doc ⟨⟩
      rfl
    rw [ofJson_of_standsForItself plain rfl]
    cbv
  have refused : ∃ reason, ofJson
      (.object [("bsonType", .string "int"), ("maximum", .int (2 ^ 63))]) = noDocument reason :=
    ofJson_refused fun fits =>
      lt_irrefl _ (fits _ (.member (List.mem_cons_of_mem _ List.mem_cons_self) .here))
  refine ⟨read, refused, ?_⟩
  -- So adding the bound turns success into failure.
  intro always
  have agree := always "maximum" (by intro keyword; cases keyword <;> decide) []
    [("bsonType", .string "int")] [] (.int (2 ^ 63))
  obtain ⟨_, read'⟩ := agree.succeeds_iff.mp ⟨_, read⟩
  obtain ⟨_, refused⟩ := refused
  cases read'.symm.trans refused

end Schema

end BsonTable
