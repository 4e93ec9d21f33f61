import BsonTable.Schema.Basic

/-! Equality of schemas, in which the order of properties and of branches does not count. -/

namespace BsonTable

namespace Schema

mutual

/-- Two schemas are the same when they list the same parts, whatever the order of the parts. -/
def same : Schema → Schema → Bool
  | any, any => true
  | scalar left, scalar right => left == right
  | object leftProperties leftRequired leftAdditional,
      object rightProperties rightRequired rightAdditional =>
    -- Of fields with distinct keys, equal numbers make it enough to find each one of the left side.
    leftProperties.length == rightProperties.length &&
      sameFields leftProperties rightProperties &&
      leftRequired == rightRequired && leftAdditional == rightAdditional
  | array left, array right => same left right
  -- Distinct branches of equal number make containment one way enough.
  | anyOf left, anyOf right => left.length == right.length && containsAll left right
  | _, _ => false
termination_by left right => (sizeOf left + sizeOf right, 0)

/-- Whether every left field has the same schema on the right. -/
def sameFields : List (String × Schema) → List (String × Schema) → Bool
  | [], _ => true
  | (key, schema) :: rest, right => sameAt key schema right && sameFields rest right
termination_by left right => (sizeOf left + sizeOf right, 1)

/-- Whether the first field with a key has this schema. -/
def sameAt (key : String) (schema : Schema) : List (String × Schema) → Bool
  | [] => false
  -- Only the first field with the key is compared.
  | (k, other) :: rest => if k = key then same schema other else sameAt key schema rest
termination_by fields => (sizeOf schema + sizeOf fields, 0)

/-- Whether every left branch is one of the right ones. -/
def containsAll : List Schema → List Schema → Bool
  | [], _ => true
  | branch :: rest, right => contains branch right && containsAll rest right
termination_by left right => (sizeOf left + sizeOf right, 1)

/-- Whether a schema is one of the branches. -/
def contains (branch : Schema) : List Schema → Bool
  | [] => false
  -- A branch of the list is asked on the left, and the one that is looked for on the right.
  | other :: rest => same other branch || contains branch rest
termination_by branches => (sizeOf branch + sizeOf branches, 0)

end

end Schema

end BsonTable
