import BsonTable.Library.Basic
import BsonTable.Proofs.Json.Reader
import BsonTable.Proofs.Text.Numeral

/-!
The tokens of JSON. Which one a library takes for a double or a character is up to it, and what is
relied on is that a reader finds the same double and the same character in it.
-/

namespace BsonTable.Json

/-- Whether a text begins with what may stand behind a value, if with anything. -/
def Closes (rest : List Char) : Prop :=
  -- At the end of a text there is no character, and that closes a value too.
  ∀ c, rest.head? = some c → c = ',' ∨ c = ']' ∨ c = '\x7d'

/-- A character that may stand alone between strings. -/
structure IsPlain (c : Char) : Prop where
  quote : c ≠ '"'
  comma : c ≠ ','
  colon : c ≠ ':'
  space : c ≠ ' '

instance (c : Char) : Decidable (IsPlain c) :=
  decidable_of_iff (c ≠ '"' ∧ c ≠ ',' ∧ c ≠ ':' ∧ c ≠ ' ')
    ⟨fun ⟨quote, comma, colon, space⟩ => ⟨quote, comma, colon, space⟩,
      fun ⟨quote, comma, colon, space⟩ => ⟨quote, comma, colon, space⟩⟩

/-- Whether characters are plain is decided one by one. -/
theorem forall_isPlain {cs : List Char} (all : cs.all (fun c => decide (IsPlain c)) = true) :
    ∀ c ∈ cs, IsPlain c := by
  -- The test of the list is the test of each of its members.
  simpa using all

/-- Characters that stand alone between strings, and at least one. -/
structure IsToken (cs : List Char) : Prop where
  nonempty : cs ≠ []
  plain : ∀ c ∈ cs, IsPlain c

/-- The ways to write a character inside a string. -/
inductive Spells (c : Char) : List Char → Prop
  | itself (other : c ≠ '"' ∧ c ≠ '\\') (printed : 32 ≤ c.toNat) : Spells c [c]
  /-- By a letter that stands for it behind a backslash. -/
  | letter {letter : Char} (stands : unescape? letter = some c) : Spells c ['\\', letter]
  /-- By the four digits of its code. -/
  | digits {first second third fourth : Char}
      (code : readCode? [first, second, third, fourth] = some c) :
      Spells c ['\\', 'u', first, second, third, fourth]

/-- A library writes JSON: its tokens stand for the doubles and characters that they are made of. -/
class LawfulJsonLibrary [JsonLibrary] : Prop where
  /-- A double that is a number is read back from its token. -/
  readNumber?_doubleText {x : Binary64} {negative : Bool} {significand : ℕ} {exponent : ℤ}
    (finite : x.datum = .finite negative significand exponent) {rest : List Char}
    (closes : Closes rest) :
    readNumber? (JsonLibrary.doubleText x ++ rest) = some (.double x, rest)
  /-- Whatever stands for a double has no quotes, separators or spaces. -/
  isToken_doubleText (x : Binary64) : IsToken (JsonLibrary.doubleText x)
  /-- A character is written as it stands, or escaped. -/
  spells_escapeChar (c : Char) : Spells c (JsonLibrary.escapeChar c)

/-- A digit is plain. -/
theorem isPlain_of_isDigit {c : Char} (digit : c.isDigit = true) : IsPlain c := by
  -- Each of the four is no digit.
  constructor <;> rintro rfl <;> cases digit

/-- A plain character and plain characters behind it are a token. -/
theorem IsToken.cons {c : Char} {cs : List Char} (first : IsPlain c) (plain : ∀ c ∈ cs, IsPlain c) :
    IsToken (c :: cs) :=
  ⟨nofun, List.forall_mem_cons.mpr ⟨first, plain⟩⟩

/-- A token with plain characters behind it is a token. -/
theorem IsToken.append {token cs : List Char} (is : IsToken token) (plain : ∀ c ∈ cs, IsPlain c) :
    IsToken (token ++ cs) :=
  ⟨by simp [is.nonempty], List.forall_mem_append.mpr ⟨is.plain, plain⟩⟩

/-- A numeral is a token. -/
theorem isToken_numeral (value : ℕ) : IsToken (Text.numeral value) := by
  -- A numeral has a digit at least.
  refine ⟨?_, fun c inside => isPlain_of_isDigit (Text.isDigit_of_mem_numeral value c inside)⟩
  rw [← List.length_pos_iff, Text.length_numeral]
  exact Nat.succ_pos _

/-- So is a numeral with a sign. -/
theorem isToken_signedNumeral (value : ℤ) : IsToken (Text.signedNumeral value) := by
  unfold Text.signedNumeral
  -- A minus sign is plain as well.
  split
  · exact .cons (by decide) (isToken_numeral _).plain
  · exact isToken_numeral _

end BsonTable.Json
