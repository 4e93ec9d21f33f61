import BsonTable.Bson.Text
import BsonTable.Proofs.Json.FiniteTrees
import BsonTable.Proofs.Json.Spacing
import BsonTable.Proofs.Json.StandardTokens

/-!
The extended JSON of a value is JSON: it is read back as the tree it was written from, and is the
compact text of that tree but for one space behind each separator.
-/

namespace BsonTable.Value

open ExtendedJsonLibrary (relaxed)

/--
The extended JSON of a value is read back as its relaxed tree, with the keys in their order, and
holds the keys and strings of that tree as they are written. Exactly one space follows each
separator outside strings, and without these spaces it is the compact text of the tree.
-/
theorem extendedJson_is_spaced_json [ExtendedJsonLibrary] [LawfulExtendedJsonLibrary]
    [JsonLibrary] [Json.LawfulJsonLibrary] (value : Value) :
    Json.read? value.extendedJson = some (relaxed value) ∧
      String.ofList (Json.unspaced .outside value.extendedJson.toList) =
        (relaxed value).compactText ∧
      Json.SpacedOnce .outside value.extendedJson.toList ∧
      Json.literals .outside value.extendedJson.toList =
        (relaxed value).texts.flatMap Json.quoted := by
  -- The tree is finite, so it is read back; the other three are about how its text is spaced.
  have finite := LawfulExtendedJsonLibrary.relaxed_isFinite value
  have spaced := Json.spaced_write (relaxed value)
  have text : value.extendedJson.toList = Json.write .spaced (relaxed value) :=
    String.toList_ofList
  refine ⟨Json.read?_write Json.areMarks_spaced finite, ?_, ?_, ?_⟩
  · rw [text, spaced.unspaced_eq]
    rfl
  · rw [text]
    exact spaced.once
  · rw [text, spaced.literals_eq]

/-- Separators inside of keys and strings stay as they are, and so does an empty list. -/
theorem extendedJson_is_spaced_json_nested :
    let value := document [("a: b", .array [.int 1, .string "c, d"]), ("e", .array [])]
    let tree := Json.object [("a: b", .array [.int 1, .string "c, d"]), ("e", .array [])]
    let text := "\x7b\"a: b\": [1, \"c, d\"], \"e\": []\x7d"
    value.extendedJson = text ∧ Json.read? text = some tree ∧
      String.ofList (Json.unspaced .outside text.toList) =
        "\x7b\"a: b\":[1,\"c, d\"],\"e\":[]\x7d" := by
  intro value tree text
  -- The text is computed; what it reads as and how it is spaced are taken from the theorem.
  have written : value.extendedJson = text := by decide +kernel
  have readable : relaxed value = tree := by
    simp only [relaxed, value, tree, ExtendedJson.relaxed, ExtendedJson.relaxedFields,
      ExtendedJson.relaxedElements]
    rfl
  have compact : tree.compactText = "\x7b\"a: b\":[1,\"c, d\"],\"e\":[]\x7d" := by decide +kernel
  obtain ⟨reads, unspaced, -, -⟩ := extendedJson_is_spaced_json value
  rw [written, readable] at reads unspaced
  exact ⟨written, reads, unspaced.trans compact⟩

end BsonTable.Value
