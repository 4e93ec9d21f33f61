import BsonTable.Number.Binary

/-! JSON trees whose objects keep the order of their members. -/

namespace BsonTable

/-- A JSON value; integers and binary numbers keep tokens of their own. -/
inductive Json where
  | null
  | bool (value : Bool)
  -- An integer is no double, so that no digit of it is lost.
  | int (value : Int)
  | double (value : Binary64)
  | string (text : String)
  | array (elements : List Json)
  -- A list, as the order of the members is that of the text.
  | object (members : List (String × Json))
deriving Repr

end BsonTable
