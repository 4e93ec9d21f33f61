import BsonTable.Error

/-! What a column promises about missing values. -/

namespace BsonTable

/-- Whether a column may hold a missing value. -/
inductive Nullability where
  | noNulls
  | nullable
  | unknown
deriving Repr, DecidableEq

namespace Nullability

/-- The numeric code. -/
def code : Nullability → Int
  | noNulls => 0
  | nullable => 1
  | unknown => 2

/-- The nullability with a code. -/
def ofCode? (code : Int) : Option Nullability :=
  -- Reading looks for the one that has the code, so that the two directions agree.
  [noNulls, nullable, unknown].find? (·.code == code)

/-- The flag in a catalog, empty when nothing is known. -/
def text : Nullability → String
  | noNulls => "NO"
  | nullable => "YES"
  | unknown => ""

/-- The nullability with a flag. -/
def parse (text : String) : Except Error Nullability :=
  -- The empty flag is one of the three, and not a missing flag.
  match [noNulls, nullable, unknown].find? (·.text == text) with
  | some nullability => .ok nullability
  | none => .error (.other s!"unknown nullability flag '{text}'")

end Nullability

end BsonTable
