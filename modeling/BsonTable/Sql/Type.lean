import BsonTable.Error

/-! SQL types with the numeric codes that relational consumers expect. -/

namespace BsonTable

/-- A type of the relational side. -/
inductive SqlType where
  | bit
  | tinyInt
  | smallInt
  | integer
  | bigInt
  | float
  | real
  | double
  | numeric
  | decimal
  | char
  | varchar
  | longVarchar
  | date
  | time
  | timestamp
  | binary
  | varBinary
  | longVarBinary
  | null
  | other
  | javaObject
  | array
  | blob
  | clob
  | boolean
deriving Repr, DecidableEq

namespace SqlType

/-- Every SQL type. -/
def all : List SqlType :=
  -- In the order in which the types are declared.
  [bit, tinyInt, smallInt, integer, bigInt, float, real, double, numeric, decimal, char,
    varchar, longVarchar, date, time, timestamp, binary, varBinary, longVarBinary, null,
    other, javaObject, array, blob, clob, boolean]

/-- The numeric code. -/
def code : SqlType → Int
  -- Codes are handed on unchanged, so they do not follow the order of the types.
  | bit => -7
  | tinyInt => -6
  | smallInt => 5
  | integer => 4
  | bigInt => -5
  | float => 6
  | real => 7
  | double => 8
  | numeric => 2
  | decimal => 3
  | char => 1
  | varchar => 12
  | longVarchar => -1
  | date => 91
  | time => 92
  | timestamp => 93
  | binary => -2
  | varBinary => -3
  | longVarBinary => -4
  | null => 0
  | other => 1111
  | javaObject => 2000
  | array => 2003
  | blob => 2004
  | clob => 2005
  | boolean => 16

/-- The upper-case name. -/
def name : SqlType → String
  | bit => "BIT"
  | tinyInt => "TINYINT"
  | smallInt => "SMALLINT"
  | integer => "INTEGER"
  | bigInt => "BIGINT"
  | float => "FLOAT"
  | real => "REAL"
  | double => "DOUBLE"
  | numeric => "NUMERIC"
  | decimal => "DECIMAL"
  | char => "CHAR"
  | varchar => "VARCHAR"
  | longVarchar => "LONGVARCHAR"
  | date => "DATE"
  | time => "TIME"
  | timestamp => "TIMESTAMP"
  | binary => "BINARY"
  | varBinary => "VARBINARY"
  | longVarBinary => "LONGVARBINARY"
  | null => "NULL"
  | other => "OTHER"
  | javaObject => "JAVA_OBJECT"
  | array => "ARRAY"
  | blob => "BLOB"
  | clob => "CLOB"
  | boolean => "BOOLEAN"

/-- The type with a code. -/
def ofCode? (code : Int) : Option SqlType :=
  all.find? (·.code == code)

/-- The type with a name, in upper case. -/
def parse (text : String) : Except Error SqlType :=
  -- Names are not folded, so a name in lower case is unknown.
  match all.find? (·.name == text) with
  | some type => .ok type
  | none => .error (.other s!"unknown SQL type name '{text}'")

end SqlType

end BsonTable
