import BsonTable.Library.Basic
import BsonTable.Text.Numeral

/-! JSON text of a tree, compact or with a space after every separator. -/

namespace BsonTable.Json

/-- What stands between the items of a list and between a key and its value. -/
structure Separators where
  -- Elements of a list and members of an object are separated in the same way.
  item : List Char
  member : List Char

/-- Separators without spaces. -/
def Separators.compact : Separators := ⟨[','], [':']⟩

/-- Separators with one space behind each. -/
def Separators.spaced : Separators := ⟨[',', ' '], [':', ' ']⟩

variable [JsonLibrary]

/-- A string between quotes. -/
def quoted (text : String) : List Char :=
  -- Only the characters are escaped; the quotes around them are written as they are.
  '"' :: text.toList.flatMap JsonLibrary.escapeChar ++ ['"']

mutual

/-- Text of a value. -/
def write (separators : Separators) : Json → List Char
  | null => "null".toList
  | bool value => (if value then "true" else "false").toList
  | int value => Text.signedNumeral value
  | double value => JsonLibrary.doubleText value
  | string text => quoted text
  -- Without elements there is nothing to separate, and the brackets have nothing between them.
  | array [] => ['[', ']']
  | array (first :: rest) =>
    '[' :: write separators first ++ writeElements separators rest ++ [']']
  | object [] => ['\x7b', '\x7d']
  | object ((key, first) :: rest) =>
    '\x7b' :: quoted key ++ separators.member ++ write separators first ++
      writeMembers separators rest ++ ['\x7d']

/-- Text of the elements after the first, each behind a separator. -/
def writeElements (separators : Separators) : List Json → List Char
  | [] => []
  | element :: rest =>
    -- A separator stands in front, so that none follows the last element.
    separators.item ++ write separators element ++ writeElements separators rest

/-- Text of the members after the first, each behind a separator. -/
def writeMembers (separators : Separators) : List (String × Json) → List Char
  | [] => []
  | (key, value) :: rest =>
    separators.item ++ quoted key ++ separators.member ++ write separators value ++
      writeMembers separators rest

end

/-- Text without spaces outside strings. -/
def compactText (tree : Json) : String :=
  String.ofList (write .compact tree)

/-- Text with a space after every separator. -/
def spacedText (tree : Json) : String :=
  String.ofList (write .spaced tree)

end BsonTable.Json
