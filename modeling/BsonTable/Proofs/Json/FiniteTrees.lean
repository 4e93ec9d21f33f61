import BsonTable.Library.Standard
import BsonTable.Proofs.Json.ReadBack

/-!
The trees of extended JSON. What is relied on of a library is that its readable trees hold numbers
only, as JSON has no other doubles; the standard library gives the rest of them names.
-/

namespace BsonTable

/-- Every double of a relaxed tree is a number. -/
class LawfulExtendedJsonLibrary [ExtendedJsonLibrary] : Prop where
  relaxed_isFinite (value : Value) : (ExtendedJsonLibrary.relaxed value).IsFinite

namespace ExtendedJson

/-- The value under a key decides. -/
theorem tagged_isFinite (key : String) (value : Json) :
    (tagged key value).IsFinite ↔ value.IsFinite :=
  -- An object with one member is as finite as its value, and a key has no doubles.
  and_iff_left trivial

/-- A double is stored as a number, or as null. -/
theorem storedDouble_isFinite (x : Binary64) : (storedDouble x).IsFinite := by
  -- The case of a number is what the tree asks for; otherwise there is no double left.
  unfold storedDouble
  split
  · rename_i finite
    exact ⟨_, _, _, finite⟩
  · trivial

/-- A double is readable as a number, or by a name. -/
theorem readableDouble_isFinite (x : Binary64) : (readableDouble x).IsFinite := by
  unfold readableDouble
  split
  · exact (tagged_isFinite _ _).mpr trivial
  · exact (tagged_isFinite _ _).mpr trivial
  · rename_i finite
    exact ⟨_, _, _, finite⟩

/-- Bytes are listed as integers. -/
theorem areFinite_bytes (bytes : List UInt8) :
    Json.AreFinite (bytes.map fun byte => .int byte.toNat) := by
  -- The induction is on the bytes, each of which is one integer.
  induction bytes with
  | nil => trivial
  | cons byte bytes ih => exact ⟨trivial, ih⟩

/-- Binary data is text. -/
theorem binary_isFinite (subtype : UInt8) (bytes : List UInt8) :
    (binary subtype bytes).IsFinite :=
  (tagged_isFinite _ _).mpr ⟨trivial, trivial, trivial⟩

/-- So is a regular expression, in whatever order its options stand. -/
theorem regex_isFinite (pattern options : String) : (regex pattern options).IsFinite :=
  (tagged_isFinite _ _).mpr ⟨trivial, trivial, trivial⟩

/-- A date is text or milliseconds. -/
theorem readableDate_isFinite (millis : Int64) : (readableDate millis).IsFinite := by
  -- Neither form of a date has a double in it.
  unfold readableDate
  split
  · exact (tagged_isFinite _ _).mpr trivial
  · exact (tagged_isFinite _ _).mpr ((tagged_isFinite _ _).mpr trivial)

mutual

/-- Every double of a stored tree is a number. -/
theorem stored_isFinite (value : Value) : (stored value).IsFinite := by
  -- The induction is on the value. Nested values have lemmas below, and most others are one member.
  cases value with
  | double x => exact storedDouble_isFinite x
  | document fields => exact storedFields_areFinite fields
  | array elements => exact storedElements_areFinite elements
  | javascriptWithScope code scope => exact ⟨trivial, storedFields_areFinite scope, trivial⟩
  -- Bytes are listed or written as text, which depends on the subtype.
  | binary subtype bytes =>
    rw [stored]
    split
    · exact areFinite_bytes bytes
    · exact binary_isFinite subtype bytes
  | regex pattern options => exact regex_isFinite pattern options
  | timestamp time increment => exact (tagged_isFinite _ _).mpr ⟨trivial, trivial, trivial⟩
  | dbPointer collection id =>
    exact (tagged_isFinite _ _).mpr ⟨trivial, (tagged_isFinite _ _).mpr trivial, trivial⟩
  | _ => simp [stored, tagged_isFinite, objectId, dateMillis, decimal, Json.IsFinite]
termination_by sizeOf value

/-- So is every double of stored elements. -/
theorem storedElements_areFinite (elements : List Value) :
    Json.AreFinite (storedElements elements) := by
  -- The induction is on the elements, with that on the values inside.
  match elements with
  | [] => trivial
  | element :: rest => exact ⟨stored_isFinite element, storedElements_areFinite rest⟩
termination_by sizeOf elements

/-- So is every double of stored fields. -/
theorem storedFields_areFinite (fields : List (String × Value)) :
    Json.MembersAreFinite (storedFields fields) := by
  match fields with
  | [] => trivial
  | (_, value) :: rest => exact ⟨stored_isFinite value, storedFields_areFinite rest⟩
termination_by sizeOf fields

end

mutual

/-- Every double of a relaxed tree is a number. -/
theorem relaxed_isFinite (value : Value) : (relaxed value).IsFinite := by
  -- A value that looks alike in both trees is taken from the stored one.
  have shared := stored_isFinite value
  cases value with
  | double x => exact readableDouble_isFinite x
  | document fields => exact relaxedFields_areFinite fields
  | array elements => exact relaxedElements_areFinite elements
  | binary subtype bytes => exact binary_isFinite subtype bytes
  | regex pattern options => exact regex_isFinite pattern (sortedOptions options)
  | date millis => exact readableDate_isFinite millis
  -- The other values have one form in both trees.
  | _ => exact shared
termination_by sizeOf value

/-- So is every double of relaxed elements. -/
theorem relaxedElements_areFinite (elements : List Value) :
    Json.AreFinite (relaxedElements elements) := by
  -- As for stored elements, but the values inside are relaxed.
  match elements with
  | [] => trivial
  | element :: rest => exact ⟨relaxed_isFinite element, relaxedElements_areFinite rest⟩
termination_by sizeOf elements

/-- So is every double of relaxed fields. -/
theorem relaxedFields_areFinite (fields : List (String × Value)) :
    Json.MembersAreFinite (relaxedFields fields) := by
  match fields with
  | [] => trivial
  | (_, value) :: rest => exact ⟨relaxed_isFinite value, relaxedFields_areFinite rest⟩
termination_by sizeOf fields

end

end ExtendedJson

/-- The standard library of extended JSON is lawful. -/
instance : LawfulExtendedJsonLibrary where
  relaxed_isFinite := ExtendedJson.relaxed_isFinite

end BsonTable
