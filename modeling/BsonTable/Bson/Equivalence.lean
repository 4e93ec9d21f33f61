import BsonTable.Bson.Value

/-! Equality of values, in which the order of the fields of a document does not count. -/

namespace BsonTable.Value

mutual

/-- Whether two values hold the same data. -/
def equivalent : Value → Value → Bool
  | .document left, .document right =>
    -- Both sides have equally many fields, so only the left ones are looked for.
    left.length == right.length && fieldsEquivalent left right
  | .array left, .array right => elementsEquivalent left right
  | .javascriptWithScope leftCode left, .javascriptWithScope rightCode right =>
    leftCode == rightCode && left.length == right.length && fieldsEquivalent left right
  -- Doubles are compared as numbers, so that a value without a number differs from itself.
  | .double left, .double right => left.equal right
  | .string left, .string right => left == right
  | .binary leftType left, .binary rightType right => leftType == rightType && left == right
  | .undefined, .undefined => true
  | .objectId left, .objectId right => left == right
  | .bool left, .bool right => left == right
  | .date left, .date right => left == right
  | .null, .null => true
  | .regex leftPattern left, .regex rightPattern right =>
    leftPattern == rightPattern && left == right
  | .dbPointer leftName left, .dbPointer rightName right => leftName == rightName && left == right
  | .javascript left, .javascript right => left == right
  | .symbol left, .symbol right => left == right
  | .int left, .int right => left == right
  | .timestamp leftTime left, .timestamp rightTime right => leftTime == rightTime && left == right
  | .long left, .long right => left == right
  | .decimal left, .decimal right => left == right
  | .minKey, .minKey => true
  | .maxKey, .maxKey => true
  -- Values of two kinds differ, also when they are the same number.
  | _, _ => false

/-- Whether every left field has the same data on the right. -/
def fieldsEquivalent : List (String × Value) → List (String × Value) → Bool
  | [], _ => true
  | (key, value) :: rest, right =>
    -- Where a key comes twice on the right, its first value is the one that is found.
    (match Fields.get? key right with
      | some other => equivalent value other
      | none => false) && fieldsEquivalent rest right

/-- Whether two lists hold the same data in the same order. -/
def elementsEquivalent : List Value → List Value → Bool
  | [], [] => true
  | left :: leftRest, right :: rightRest =>
    equivalent left right && elementsEquivalent leftRest rightRest
  | _, _ => false

end

end BsonTable.Value
