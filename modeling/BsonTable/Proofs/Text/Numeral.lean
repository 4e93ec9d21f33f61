import BsonTable.Text.Numeral
import Mathlib.Algebra.Ring.Nat
import Mathlib.Data.List.Lex
import Mathlib.Data.Nat.Log

/-! Numerals and their padded forms: their digits, the numbers they read as, and their order. -/

namespace BsonTable.Text

section Digits

variable {digit : ℕ}

/-- The character of a digit is one. -/
theorem isDigit_digitChar (small : digit < 10) : (digitChar digit).isDigit = true := by
  -- There are ten digits, and each of them is looked at.
  have all : ∀ digit < 10, (digitChar digit).isDigit = true := by decide
  exact all digit small

/-- The character of a digit stands for that digit. -/
theorem digitValue?_digitChar (small : digit < 10) :
    digitValue? (digitChar digit) = some digit := by
  have all : ∀ digit < 10, digitValue? (digitChar digit) = some digit := by decide
  exact all digit small

/-- Greater digits have greater characters. -/
theorem digitChar_lt {other : ℕ} (less : digit < other) (small : other < 10) :
    digitChar digit < digitChar other := by
  have all : ∀ other < 10, ∀ digit < other, digitChar digit < digitChar other := by decide
  exact all other small digit less

/-- A digit is no letter. -/
theorem isAlpha_of_isDigit {c : Char} (digit : c.isDigit = true) : c.isAlpha = false := by
  have below : c.val ≤ '9'.val := of_decide_eq_true (Bool.and_eq_true_iff.mp digit).2
  rw [← Bool.not_eq_true]
  intro letter
  -- Capital letters stand behind the digits, and small ones behind those.
  have above : 'A'.val ≤ c.val := by
    rcases Bool.or_eq_true_iff.mp letter with capital | small
    · exact (of_decide_eq_true capital).1
    · exact UInt32.le_trans (by decide) (of_decide_eq_true (Bool.and_eq_true_iff.mp small).1)
  exact absurd (UInt32.le_trans above below) (by decide)

/-- What reads digits goes on where it stopped. -/
theorem readDigits?_append (value : ℕ) (left right : List Char) :
    readDigits? value (left ++ right) = (readDigits? value left).bind (readDigits? · right) := by
  -- The induction is on the left part, with the value of the digits before it.
  induction left generalizing value with
  | nil => rfl
  | cons c rest ih =>
    rw [List.cons_append, readDigits?, readDigits?]
    -- The left part fails on both sides, or its value is what the right part starts from.
    cases digitValue? c with
    | none => rfl
    | some digit => exact ih _

/-- One more digit is read as the unit of ten times what was read before. -/
theorem readDigits?_push (value : ℕ) (cs : List Char) (small : digit < 10) :
    readDigits? value (cs ++ [digitChar digit]) =
      (readDigits? value cs).map fun before => 10 * before + digit := by
  -- The last digit is read behind all the others.
  rw [readDigits?_append]
  cases readDigits? value cs with
  | none => rfl
  | some before => simp [readDigits?, digitValue?_digitChar small]

end Digits

section Numerals

variable (value : ℕ)

/-- A numeral has a digit for each power of ten up to its value. -/
theorem length_numeral : (numeral value).length = Nat.log 10 value + 1 := by
  -- The induction follows the numeral: all but its last digit are the numeral of the tens.
  induction value using numeral.induct with
  | case1 value small =>
    rw [numeral, if_pos small, Nat.log_of_lt small]
    rfl
  | case2 value large ih =>
    rw [numeral, if_neg large, List.length_append, ih, List.length_singleton,
      Nat.log_of_one_lt_of_le (n := value) (by omega) (by omega)]

/-- A numeral consists of digits. -/
theorem isDigit_of_mem_numeral : ∀ c ∈ numeral value, c.isDigit = true := by
  induction value using numeral.induct with
  | case1 value small =>
    rw [numeral, if_pos small]
    exact List.forall_mem_singleton.mpr (isDigit_digitChar small)
  | case2 value large ih =>
    rw [numeral, if_neg large]
    intro c inside
    rcases List.mem_append.mp inside with inside | inside
    · exact ih c inside
    · rw [List.mem_singleton.mp inside]
      exact isDigit_digitChar (Nat.mod_lt _ (by decide))

/-- A numeral reads as its value. -/
theorem readDigits?_numeral : readDigits? 0 (numeral value) = some value := by
  -- The tens read as their value first, and the last digit adds the units.
  induction value using numeral.induct with
  | case1 value small =>
    rw [numeral, if_pos small]
    simp [readDigits?, digitValue?_digitChar small]
  | case2 value large ih =>
    rw [numeral, if_neg large, readDigits?_push _ _ (Nat.mod_lt _ (by decide)), ih, Option.map_some,
      Nat.div_add_mod]

/-- A numeral is read back. -/
theorem readNumeral?_numeral : readNumeral? (numeral value) = some value := by
  -- A numeral has at least one digit, so it is not refused as empty.
  have nonempty : numeral value ≠ [] := List.ne_nil_of_length_eq_add_one (length_numeral value)
  unfold readNumeral?
  rw [if_neg (by simpa using nonempty), readDigits?_numeral]

end Numerals

section Padding

variable {width value : ℕ}

/-- A padded numeral is filled with zeros in front. -/
theorem paddedNumeral_eq (width value : ℕ) :
    paddedNumeral width value =
      List.replicate (width - (numeral value).length) '0' ++ numeral value := rfl

/-- A padded numeral consists of digits. -/
theorem isDigit_of_mem_paddedNumeral (width value : ℕ) :
    ∀ c ∈ paddedNumeral width value, c.isDigit = true := by
  -- Zeros in front are digits as well.
  rw [paddedNumeral_eq]
  intro c inside
  rcases List.mem_append.mp inside with zero | inside
  · rw [(List.mem_replicate.mp zero).2]
    rfl
  · exact isDigit_of_mem_numeral value c inside

/-- A padded numeral is as long as its width, or as its numeral if that is longer. -/
theorem length_paddedNumeral_eq (width value : ℕ) :
    (paddedNumeral width value).length = max width (Nat.log 10 value + 1) := by
  rw [paddedNumeral, List.length_leftpad, length_numeral]

/-- A numeral that fits a width is padded to that width. -/
theorem length_paddedNumeral (positive : 0 < width) (fits : value < 10 ^ width) :
    (paddedNumeral width value).length = width := by
  have short : Nat.log 10 value < width := Nat.log_lt_of_lt_pow' positive.ne' fits
  rw [length_paddedNumeral_eq]
  omega

/-- A padded numeral reads as its value. -/
theorem readDigits?_paddedNumeral (width value : ℕ) :
    readDigits? 0 (paddedNumeral width value) = some value := by
  -- Zeros in front read as zero, however many there are.
  have zeros : ∀ count, readDigits? 0 (List.replicate count '0') = some 0 := by
    intro count
    induction count with
    | zero => rfl
    | succ count ih => exact ih
  rw [paddedNumeral_eq, readDigits?_append, zeros, Option.bind_some, readDigits?_numeral]

/-- A padded numeral is read back. -/
theorem readNumeral?_paddedNumeral (width value : ℕ) :
    readNumeral? (paddedNumeral width value) = some value := by
  have nonempty : paddedNumeral width value ≠ [] := by
    apply List.ne_nil_of_length_pos
    rw [length_paddedNumeral_eq]
    omega
  unfold readNumeral?
  rw [if_neg (by simpa using nonempty), readDigits?_paddedNumeral]

/-- A wider padded numeral is that of the tens with the digit of the units behind it. -/
theorem paddedNumeral_succ (positive : 0 < width) (value : ℕ) :
    paddedNumeral (width + 1) value =
      paddedNumeral width (value / 10) ++ [digitChar (value % 10)] := by
  -- Both numerals end with the units; the zeros in front differ by what the tens lack.
  rw [paddedNumeral_eq, paddedNumeral_eq]
  by_cases small : value < 10
  · -- The tens are a zero of their own, which counts as one of those in front.
    have tens : numeral (value / 10) = ['0'] := by
      rw [Nat.div_eq_of_lt small, numeral, if_pos (by decide)]
      rfl
    rw [tens, Nat.mod_eq_of_lt small, numeral, if_pos small, ← List.replicate_one (a := '0'),
      List.replicate_append_replicate]
    simp only [List.length_replicate, List.length_singleton]
    congr 2
    omega
  · rw [numeral, if_neg small, List.length_append, List.length_singleton, Nat.add_sub_add_right,
      List.append_assoc]

/-- Lists of one length are ordered by their first parts, whatever follows those. -/
theorem append_lt_append {left right : List Char} (less : left < right)
    (same : left.length = right.length) (left' right' : List Char) :
    left ++ left' < right ++ right' := by
  -- The induction is on the left list, as both are equally long.
  induction left generalizing right with
  | nil =>
    obtain rfl := List.length_eq_zero_iff.mp same.symm
    cases less
  | cons c rest ih =>
    cases right with
    | nil => cases same
    | cons d rest' =>
      -- The first characters decide, or are the same.
      rw [List.cons_append, List.cons_append, List.cons_lt_cons_iff]
      refine (List.cons_lt_cons_iff.mp less).imp_right fun ⟨first, less⟩ => ⟨first, ?_⟩
      exact ih less (Nat.succ.inj same)

/-- Padded numerals of one width are ordered as their values. -/
theorem paddedNumeral_lt {other : ℕ} (positive : 0 < width) (less : value < other)
    (fits : other < 10 ^ width) : paddedNumeral width value < paddedNumeral width other := by
  -- The induction is on the width. A wider numeral is that of the tens with one more digit.
  induction width, positive using Nat.le_induction generalizing value other with
  | base =>
    have digit : ∀ {value : ℕ}, value < 10 → paddedNumeral 1 value = [digitChar value] := by
      intro value small
      rw [paddedNumeral_eq, numeral, if_pos small]
      rfl
    have small : other < 10 := fits
    rw [Nat.succ_eq_add_one, Nat.zero_add, digit (less.trans small), digit small,
      List.cons_lt_cons_iff]
    exact .inl (digitChar_lt less small)
  | succ width positive ih =>
    have tens : other / 10 < 10 ^ width := by
      rw [Nat.pow_succ] at fits
      omega
    rw [paddedNumeral_succ positive, paddedNumeral_succ positive]
    -- The tens decide, or they are the same and the units do.
    rcases Nat.lt_or_ge (value / 10) (other / 10) with below | above
    · refine append_lt_append (ih below tens) ?_ _ _
      rw [length_paddedNumeral positive (below.trans tens), length_paddedNumeral positive tens]
    · have same : value / 10 = other / 10 := by omega
      rw [same]
      refine List.append_left_lt (List.cons_lt_cons_iff.mpr (.inl (digitChar_lt ?_ ?_))) <;> omega

end Padding

section Prefixes

/-- A prefix of one kind of characters ends with the first character of another kind. -/
theorem span_append_cons {kind : Char → Bool} {left : List Char} {c : Char}
    (all : ∀ c ∈ left, kind c = true) (stop : kind c = false) (right : List Char) :
    (left ++ c :: right).takeWhile kind = left ∧
      (left ++ c :: right).dropWhile kind = c :: right := by
  -- The first part goes through whole, and the next character stops the run.
  rw [List.takeWhile_append_of_pos all, List.dropWhile_append_of_pos all,
    List.takeWhile_cons_of_neg (by simp [stop]), List.dropWhile_cons_of_neg (by simp [stop])]
  exact ⟨List.append_nil left, rfl⟩

/-- A sign stands in front of all that follows. -/
theorem withMinus_append (negative : Bool) (text rest : List Char) :
    withMinus negative text ++ rest = withMinus negative (text ++ rest) := by
  cases negative <;> rfl

/-- A sign is split off from what starts with none, such as digits. -/
theorem splitSign_withMinus (negative : Bool) {cs : List Char}
    (digits : ∀ c, cs.head? = some c → c.isDigit = true) :
    splitSign (withMinus negative cs) = (negative, cs) := by
  cases negative with
  | true => rfl
  | false =>
    -- Only a sign in front could be taken for one.
    show splitSign cs = _
    unfold splitSign
    split
    · cases digits _ rfl
    · cases digits _ rfl
    · rfl

end Prefixes

end BsonTable.Text
