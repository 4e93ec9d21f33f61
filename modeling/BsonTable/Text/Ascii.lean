/-! Case folding restricted to ASCII letters. -/

namespace BsonTable.Text

/-- Lower-case every ASCII letter and keep every other character. -/
def asciiLower (text : String) : String :=
  -- Letters beyond ASCII keep their case, whatever language they belong to.
  String.ofList (text.toList.map Char.toLower)

/-- Equality up to the case of ASCII letters. -/
def equalIgnoringAsciiCase (left right : String) : Bool :=
  -- Nothing is dropped or joined by folding, so the characters are compared one by one.
  left.toList.map Char.toLower == right.toList.map Char.toLower

end BsonTable.Text
