import BsonTable.Library.Standard
import BsonTable.Proofs.Json.Numbers

/-!
The tokens that JSON is written with stand for what they are made of: the shortest digits of a
double are read back as that double, and characters are escaped as JSON has it.
-/

namespace BsonTable.Json

section Doubles

/-- The digits of a double around its point are a token. -/
theorem isToken_writePositional (x : ScaledDecimal) :
    IsToken (doubleNotation.writePositional x) := by
  -- An integer has zeros and a tail behind its digits, any other number a point among them.
  unfold DoubleNotation.writePositional
  dsimp only
  split
  · have zeros : ∀ c ∈ List.replicate x.exponent.toNat '0', IsPlain c := by
      intro c inside
      rw [List.eq_of_mem_replicate inside]
      decide
    have tail : ∀ c ∈ doubleNotation.integerTail.toList, IsPlain c := forall_isPlain (by decide)
    exact ((isToken_numeral _).append zeros).append tail
  · have digits : ∀ c ∈ (Text.numeral x.coefficient).leftpad ((-x.exponent).toNat + 1) '0',
        IsPlain c := fun c inside => isPlain_of_isDigit
      (Text.isDigit_of_mem_paddedNumeral ((-x.exponent).toNat + 1) x.coefficient c inside)
    refine ⟨by simp, List.forall_mem_append.mpr ⟨?_, List.forall_mem_cons.mpr ⟨by decide, ?_⟩⟩⟩
    · exact fun c inside => digits c (List.mem_of_mem_take inside)
    · exact fun c inside => digits c (List.mem_of_mem_drop inside)

/-- So are its digits with an exponent. -/
theorem isToken_writeScientific (x : ScaledDecimal) :
    IsToken (doubleNotation.writeScientific x) := by
  -- The parts are looked at one by one, and each is made of plain characters.
  have digits := (isToken_numeral x.coefficient).plain
  have fraction : ∀ c ∈ (if (Text.numeral x.coefficient).length ≤ 1 then []
      else '.' :: (Text.numeral x.coefficient).drop 1), IsPlain c := by
    split
    · exact List.forall_mem_nil _
    · exact List.forall_mem_cons.mpr
        ⟨by decide, fun c inside => digits c (List.mem_of_mem_drop inside)⟩
  have sign : ∀ c ∈ (if 0 ≤ x.leading then doubleNotation.plus.toList else []), IsPlain c := by
    split
    · exact forall_isPlain (by decide)
    · exact List.forall_mem_nil _
  have mark : IsToken ('e' :: if 0 ≤ x.leading then doubleNotation.plus.toList else []) :=
    .cons (by decide) sign
  unfold DoubleNotation.writeScientific
  refine ⟨by simp, ?_⟩
  simp only [List.forall_mem_append]
  exact ⟨⟨⟨fun c inside => digits c (List.mem_of_mem_take inside), fraction⟩, mark.plain⟩,
    (isToken_signedNumeral _).plain⟩

/-- So is every double, also one that is no number. -/
theorem isToken_doubleText (x : Binary64) : IsToken (doubleText x) := by
  -- What is no number is written as a name, which has only letters.
  have null : IsToken "null".toList := ⟨nofun, forall_isPlain (by decide)⟩
  have signed (negative : Bool) {text : List Char} (token : IsToken text) :
      IsToken (Text.withMinus negative text) := by
    unfold Text.withMinus
    split
    · exact .cons (by decide) token.plain
    · exact token
  -- A number is a sign in front of one of the two layouts.
  unfold doubleText DoubleNotation.write
  cases x.datum with
  | nan => exact null
  | infinite negative => exact null
  | finite negative significand exponent =>
    -- A zero has the first layout in any case.
    cases significand with
    | zero => exact signed negative (isToken_writePositional _)
    | succ significand =>
      refine signed negative ?_
      split
      · exact isToken_writePositional _
      · exact isToken_writeScientific _

end Doubles

section Characters

/-- The character of a control character's four digits is that character. -/
theorem readCode?_control {c : Char} (control : c.toNat < 32) :
    readCode? ('0' :: '0' :: Text.hexByte (UInt8.ofNat c.toNat)) = some c := by
  -- There are few such characters, so the codes are simply compared.
  have codes : ∀ code < 32, readCode? ('0' :: '0' :: Text.hexByte (UInt8.ofNat code)) =
      some (Char.ofNat code) := by decide
  rw [codes _ control, Char.ofNat_toNat]

/-- Quotes, backslashes and controls are escaped, and everything else stands as it is. -/
theorem spells_escapeChar (c : Char) : Spells c (escapeChar c) := by
  unfold escapeChar
  -- The tests are made in their order, each of which but the last two knows the character.
  by_cases quote : c = '"'
  · rw [if_pos quote, quote]
    exact .letter rfl
  rw [if_neg quote]
  by_cases backslash : c = '\\'
  · rw [if_pos backslash, backslash]
    exact .letter rfl
  rw [if_neg backslash]
  by_cases backspace : c = '\x08'
  · rw [if_pos backspace, backspace]
    exact .letter rfl
  rw [if_neg backspace]
  by_cases feed : c = '\x0c'
  · rw [if_pos feed, feed]
    exact .letter rfl
  rw [if_neg feed]
  by_cases newline : c = '\n'
  · rw [if_pos newline, newline]
    exact .letter rfl
  rw [if_neg newline]
  by_cases carriage : c = '\r'
  · rw [if_pos carriage, carriage]
    exact .letter rfl
  rw [if_neg carriage]
  by_cases tab : c = '\t'
  · rw [if_pos tab, tab]
    exact .letter rfl
  rw [if_neg tab]
  -- Controls without a letter of their own are written as four digits.
  by_cases control : c.toNat < 32
  · rw [if_pos control]
    exact .digits (readCode?_control control)
  · rw [if_neg control]
    exact .itself ⟨quote, backslash⟩ (Nat.le_of_not_lt control)

end Characters

/-- The tokens that are in use are lawful. -/
instance : LawfulJsonLibrary where
  readNumber?_doubleText finite _ closes := readNumber?_double finite closes
  isToken_doubleText := isToken_doubleText
  spells_escapeChar := spells_escapeChar

end BsonTable.Json
