import BsonTable.Bson.Quoted
import BsonTable.Schema.Union

/-! Schemas read from documents, in canonical form. -/

namespace BsonTable.Schema

/-- The failure to read a schema. -/
def malformed {α : Type} (reason : String) : Except Error α :=
  .error (.schemaFormat reason)

/-- The failure to read a schema at a value that the message quotes. -/
def unexpected {α : Type} (expected : String) (found : Value) : Except Error α :=
  malformed s!"{expected}, found {found.quoted}"

/-- Add a required name to those before it. -/
def requireName (sorted : List String) : Value → Except Error (List String)
  | .string name => .ok (insertName name sorted)
  | other => unexpected "required entries must be strings" other

/-- The names a document schema requires. -/
def readRequired (names : List Value) : Except Error (List String) :=
  names.foldlM requireName []

/-- The required names of a node, none if it lists none. -/
def requiredOf (doc : Document) : Except Error (List String) :=
  match Fields.get? "required" doc with
  -- Nothing is required unless it is listed.
  | none => .ok []
  | some (.array names) => readRequired names
  | some other => unexpected "required must be a list" other

/-- Whether a node allows undeclared fields; a schema for them counts as permission. -/
def additionalOf (doc : Document) : Except Error Bool :=
  match Fields.get? "additionalProperties" doc with
  | none => .ok false
  | some (.bool allowed) => .ok allowed
  | some (.document _) => .ok true
  | some other => unexpected "additionalProperties must be a boolean or a schema" other

mutual

/-- Read a node: a branch for each type name, then the branches it lists, all in one union. -/
def ofDocument (doc : Document) : Except Error Schema := do
  match (← typedBranches doc) ++ (← listedBranches doc) with
  | [] =>
    -- Properties alone make a node one for documents, and without them it fits anything.
    if (Fields.get? "properties" doc).isSome then return (← objectOf doc).toSchema
    else return any
  | branches => return union branches
termination_by (sizeOf doc, 4)

/-- The branches of the type names of a node. -/
def typedBranches (doc : Document) : Except Error (List Schema) :=
  match Fields.get? "bsonType" doc with
  | none => .ok []
  | some (.string name) => do return [← ofTypeName name doc]
  -- An empty list would fit nothing at all.
  | some (.array []) => malformed "bsonType list is empty"
  | some (.array names) => names.mapM fun name => match name with
    | .string name => ofTypeName name doc
    | other => unexpected "bsonType entries must be strings" other
  | some other => unexpected "bsonType must be a string or a list of strings" other
termination_by (sizeOf doc, 3)

/-- The branches that a node lists. -/
def listedBranches (doc : Document) : Except Error (List Schema) :=
  match _found : Fields.get? "anyOf" doc with
  | none => .ok []
  | some (.array []) => malformed "anyOf list is empty"
  | some (.array alternatives) => ofAlternatives alternatives
  | some other => unexpected "anyOf must be a list" other
termination_by (sizeOf doc, 3)
decreasing_by
  -- The list is a value of the node, and so smaller than it.
  have smaller := Fields.sizeOf_lt_of_get? _found
  simp only [Value.array.sizeOf_spec] at smaller
  apply Prod.Lex.left; omega

/-- The branch of one type name, with the keywords of the node that belong to it. -/
def ofTypeName (name : String) (doc : Document) : Except Error Schema := do
  match ← TypeName.parse name with
  -- Only documents and arrays have keywords that say more about them.
  | .object => return (← objectOf doc).toSchema
  | .array => return array (← itemsOf doc)
  | name => return scalar name
termination_by (sizeOf doc, 2)

/-- The parts of a node for documents. -/
def objectOf (doc : Document) : Except Error DocumentShape := do
  let properties ← propertiesOf doc
  let required ← requiredOf doc
  let additional ← additionalOf doc
  return { properties, required, additional }
termination_by (sizeOf doc, 1)

/-- The properties of a node, none if it declares none. -/
def propertiesOf (doc : Document) : Except Error (Fields Schema) :=
  match _found : Fields.get? "properties" doc with
  | none => .ok []
  -- A name that is declared again keeps its place and takes the later schema.
  | some (.document fields) => do return Fields.ofPairs (← ofProperties fields)
  | some other => unexpected "properties must be a document" other
termination_by (sizeOf doc, 0)
decreasing_by
  have smaller := Fields.sizeOf_lt_of_get? _found
  simp only [Value.document.sizeOf_spec] at smaller
  apply Prod.Lex.left; omega

/-- The schema of the elements of a node for arrays; a list has no single one. -/
def itemsOf (doc : Document) : Except Error Schema :=
  match _found : Fields.get? "items" doc with
  | none => .ok any
  | some (.document items) => ofDocument items
  -- Schemas by position are not told apart.
  | some (.array _) => .ok any
  | some other => unexpected "items must be a schema or a list of schemas" other
termination_by (sizeOf doc, 0)
decreasing_by
  have smaller := Fields.sizeOf_lt_of_get? _found
  simp only [Value.document.sizeOf_spec] at smaller
  apply Prod.Lex.left; omega

/-- Read each listed branch. -/
def ofAlternatives : List Value → Except Error (List Schema)
  | [] => .ok []
  | .document doc :: rest => do return (← ofDocument doc) :: (← ofAlternatives rest)
  | other :: _ => unexpected "anyOf entries must be schemas" other
termination_by alternatives => (sizeOf alternatives, 0)

/-- Read each property under its name. -/
def ofProperties : List (String × Value) → Except Error (Fields Schema)
  | [] => .ok []
  | (name, .document doc) :: rest => do
    return (name, ← ofDocument doc) :: (← ofProperties rest)
  | (name, _) :: _ => malformed s!"property '{name}' is not a schema"
termination_by properties => (sizeOf properties, 0)

end

end BsonTable.Schema
