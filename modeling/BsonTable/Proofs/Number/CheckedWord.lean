import Mathlib.Data.Int.Notation

/-! Signed words of 64 bits under operations that tell when a result does not fit. -/

namespace BsonTable

/-- Whether an integer is one of a signed word of 64 bits. -/
abbrev FitsWord (n : Int) : Prop :=
  -9223372036854775808 ≤ n ∧ n ≤ 9223372036854775807

/-- A signed word of 64 bits, or nothing behind an operation that had no result in such a word. -/
structure CheckedWord where
  word? : Option Int64

namespace CheckedWord

/-- The word of an integer, if it fits. -/
def ofInt (n : Int) : CheckedWord :=
  -- Whether it fits is tested on the integer, before it is cut to a word.
  ⟨if FitsWord n then some (.ofInt n) else none⟩

/-- The result of an operation on integers, if both operands are there and the result fits. -/
def compute (operation : Int → Int → Int) (left right : CheckedWord) : CheckedWord :=
  match left.word?, right.word? with
  -- The operation is one of integers, so its result is the true one.
  | some a, some b => ofInt (operation a.toInt b.toInt)
  | _, _ => ⟨none⟩

/-- The result of a division, which there is none of by zero. -/
def divide (operation : Int → Int → Int) (left right : CheckedWord) : CheckedWord :=
  if right.word? = some 0 then ⟨none⟩ else compute operation left right

instance : Add CheckedWord := ⟨compute (· + ·)⟩
instance : Sub CheckedWord := ⟨compute (· - ·)⟩
instance : Mul CheckedWord := ⟨compute (· * ·)⟩

-- Quotients are rounded so that remainders are not negative.
instance : Div CheckedWord := ⟨divide (· / ·)⟩
instance : Mod CheckedWord := ⟨divide (· % ·)⟩

instance (n : Nat) : OfNat CheckedWord n := ⟨ofInt n⟩

-- The greatest word has no successor.
example : ((9223372036854775807 : CheckedWord) + 1).word? = none := by decide

/-- Whether a word is there and has the value of an integer. -/
def Is (checked : CheckedWord) (n : Int) : Prop :=
  ∃ word, checked.word? = some word ∧ word.toInt = n

/-- The word of an integer that fits has its value. -/
theorem ofInt_is {n : Int} (fits : FitsWord n) : (ofInt n).Is n :=
  ⟨.ofInt n, by rw [ofInt, if_pos fits], Int64.toInt_ofInt_of_le fits.1 (by omega)⟩

/-- A literal that fits has its value. -/
theorem literal_is {n : Nat} (fits : n ≤ 9223372036854775807 := by decide) :
    (OfNat.ofNat n : CheckedWord).Is (OfNat.ofNat n) :=
  ofInt_is ⟨by omega, by omega⟩

variable {left right : CheckedWord} {m n : Int}

/-- An operation whose result fits has this result. -/
theorem Is.compute (operation : Int → Int → Int) (first : left.Is m) (second : right.Is n)
    (fits : FitsWord (operation m n)) :
    (CheckedWord.compute operation left right).Is (operation m n) := by
  obtain ⟨a, hasFirst, rfl⟩ := first
  obtain ⟨b, hasSecond, rfl⟩ := second
  simp only [CheckedWord.compute, hasFirst, hasSecond]
  exact ofInt_is fits

/-- A division by another number than zero has its result if that fits. -/
theorem Is.divide (operation : Int → Int → Int) (first : left.Is m) (second : right.Is n)
    (nonzero : n ≠ 0) (fits : FitsWord (operation m n)) :
    (CheckedWord.divide operation left right).Is (operation m n) := by
  have other : right.word? ≠ some 0 := by
    obtain ⟨b, hasSecond, rfl⟩ := second
    rw [hasSecond]
    rintro ⟨⟩
    exact nonzero rfl
  rw [CheckedWord.divide, if_neg other]
  exact first.compute operation second fits

-- What fits is a matter of bounds that are known where these are used.
theorem Is.add (first : left.Is m) (second : right.Is n)
    (fits : FitsWord (m + n) := by omega) : (left + right).Is (m + n) :=
  first.compute (· + ·) second fits

theorem Is.sub (first : left.Is m) (second : right.Is n)
    (fits : FitsWord (m - n) := by omega) : (left - right).Is (m - n) :=
  first.compute (· - ·) second fits

theorem Is.mul (first : left.Is m) (second : right.Is n)
    (fits : FitsWord (m * n) := by omega) : (left * right).Is (m * n) :=
  first.compute (· * ·) second fits

theorem Is.div (first : left.Is m) (second : right.Is n) (nonzero : n ≠ 0 := by omega)
    (fits : FitsWord (m / n) := by omega) : (left / right).Is (m / n) :=
  first.divide (· / ·) second nonzero fits

theorem Is.mod (first : left.Is m) (second : right.Is n) (nonzero : n ≠ 0 := by omega)
    (fits : FitsWord (m % n) := by omega) : (left % right).Is (m % n) :=
  first.divide (· % ·) second nonzero fits

end CheckedWord

end BsonTable
