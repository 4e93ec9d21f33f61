import Mathlib.Data.String.Basic
import Mathlib.Tactic.SplitIfs

/-! Texts are ordered as their bytes are. -/

namespace BsonTable.Text

/-- The bytes of a text. -/
def bytesOf (text : String) : List UInt8 :=
  text.toUTF8.data.toList

/-- The bytes of a text are those of its characters, one after another. -/
theorem bytesOf_eq (text : String) :
    bytesOf text = text.toList.flatMap String.utf8EncodeChar := by
  rw [bytesOf, String.toUTF8, ← String.ofList_toList (s := text), String.toByteArray_ofList,
    String.toList_ofList, List.utf8Encode, List.toList_data_toByteArray]

/-- A lesser number is lesser in its digits to the base of sixty-four. -/
theorem digits_lt {v w : Nat} (less : v < w) :
    v / 64 < w / 64 ∨ v / 64 = w / 64 ∧ v % 64 < w % 64 := by
  omega

/-- A lesser byte decides, whatever follows. -/
theorem byte_cons_lt {a b : Nat} (less : a < b) (small : b < 256) (left right : List UInt8) :
    UInt8.ofNat a :: left < UInt8.ofNat b :: right := by
  -- Below the bound a number is its byte, so the order is that of the numbers.
  refine List.cons_lt_cons_iff.mpr (.inl ?_)
  rw [UInt8.lt_iff_toNat_lt, UInt8.toNat_ofNat', UInt8.toNat_ofNat', Nat.mod_eq_of_lt small,
    Nat.mod_eq_of_lt (less.trans small)]
  exact less

/-- Behind the same byte what follows decides. -/
theorem byte_cons_lt_cons (a : Nat) {left right : List UInt8} (less : left < right) :
    UInt8.ofNat a :: left < UInt8.ofNat a :: right :=
  List.cons_lt_cons_iff.mpr (.inr ⟨rfl, less⟩)

/-- A lesser character has lesser bytes, whatever follows. -/
theorem utf8EncodeChar_append_lt {c d : Char} (less : c < d) (left right : List UInt8) :
    String.utf8EncodeChar c ++ left < String.utf8EncodeChar d ++ right := by
  have less : c.val.toNat < d.val.toNat := less
  have small : d.val.toNat < 1114112 := by
    have valid : d.val.toNat < 55296 ∨ 57343 < d.val.toNat ∧ d.val.toNat < 1114112 := d.valid
    omega
  -- Every byte but the first is a digit to the base of sixty-four.
  have digits : ∀ value : Nat,
      value / 4096 = value / 64 / 64 ∧ value / 262144 = value / 64 / 64 / 64 := by
    intro value
    simp only [Nat.div_div_eq_div_mul, Nat.reduceMul, and_self]
  unfold String.utf8EncodeChar
  dsimp only
  generalize c.val.toNat = v at *
  generalize d.val.toNat = w at *
  rw [(digits v).1, (digits v).2, (digits w).1, (digits w).2]
  -- More bytes start with a greater one, and equally many are compared digit by digit.
  split_ifs <;> try first
    | exact absurd less (by omega)
    | exact byte_cons_lt (by omega) (by omega) _ _
  · rcases digits_lt less with high | ⟨same, low⟩
    · exact byte_cons_lt (by omega) (by omega) _ _
    · rw [same]
      exact byte_cons_lt_cons _ (byte_cons_lt (by omega) (by omega) _ _)
  · rcases digits_lt less with high | ⟨same, low⟩
    · rcases digits_lt high with higher | ⟨same, middle⟩
      · exact byte_cons_lt (by omega) (by omega) _ _
      · rw [same]
        exact byte_cons_lt_cons _ (byte_cons_lt (by omega) (by omega) _ _)
    · rw [same]
      exact byte_cons_lt_cons _ (byte_cons_lt_cons _ (byte_cons_lt (by omega) (by omega) _ _))
  · rcases digits_lt less with high | ⟨same, low⟩
    · rcases digits_lt high with higher | ⟨same, middle⟩
      · rcases digits_lt higher with highest | ⟨same, upper⟩
        · exact byte_cons_lt (by omega) (by omega) _ _
        · rw [same]
          exact byte_cons_lt_cons _ (byte_cons_lt (by omega) (by omega) _ _)
      · rw [same]
        exact byte_cons_lt_cons _ (byte_cons_lt_cons _ (byte_cons_lt (by omega) (by omega) _ _))
    · rw [same]
      exact byte_cons_lt_cons _ (byte_cons_lt_cons _ (byte_cons_lt_cons _
        (byte_cons_lt (by omega) (by omega) _ _)))

/-- A lesser text has lesser bytes. -/
theorem bytesOf_lt {left right : String} (less : left < right) :
    bytesOf left < bytesOf right := by
  -- The induction is on the characters: the first that differ decide, as do their bytes.
  rw [String.lt_iff_toList_lt] at less
  rw [bytesOf_eq, bytesOf_eq]
  generalize left.toList = cs at *
  generalize right.toList = ds at *
  induction cs generalizing ds with
  | nil =>
    cases ds with
    | nil => cases less
    | cons d rest =>
      -- Every character has a first byte.
      obtain ⟨byte, bytes, encoded⟩ :=
        List.exists_cons_of_ne_nil (String.utf8EncodeChar_ne_nil (c := d))
      rw [List.flatMap_nil, List.flatMap_cons, encoded]
      exact List.nil_lt_cons byte _
  | cons c rest ih =>
    cases ds with
    | nil => cases less
    | cons d rest' =>
      rw [List.flatMap_cons, List.flatMap_cons]
      rcases List.cons_lt_cons_iff.mp less with first | ⟨rfl, later⟩
      · exact utf8EncodeChar_append_lt first _ _
      · exact List.append_left_lt (ih _ later)

/-- The order of texts is that of their bytes. -/
theorem bytesOf_lt_iff {left right : String} : bytesOf left < bytesOf right ↔ left < right := by
  -- If the order were not the same one way, it would be wrong the other way too.
  refine ⟨fun less => ?_, bytesOf_lt⟩
  rcases lt_trichotomy left right with before | rfl | behind
  · exact before
  · exact absurd less (List.lt_irrefl _)
  · exact absurd (List.lt_trans less (bytesOf_lt behind)) (List.lt_irrefl _)

end BsonTable.Text
