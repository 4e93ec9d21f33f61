import BsonTable.Json.Tokens
import BsonTable.Proofs.Json.Tokens
import BsonTable.Proofs.Number.ShortestDecimal
import BsonTable.Proofs.Text.Numeral

/-! Number tokens are read back: integers as they are, and every finite double from its digits. -/

namespace BsonTable.Json

/-- Whether a text begins with no digit. -/
def EndsDigits (rest : List Char) : Prop :=
  ∀ c, rest.head? = some c → c.isDigit = false

/-- Whether characters are digits, and at least one. -/
structure AreDigits (cs : List Char) : Prop where
  nonempty : cs ≠ []
  digits : ∀ c ∈ cs, c.isDigit = true

section Runs

variable {digits rest : List Char}

/-- What closes a value ends its digits. -/
theorem Closes.endsDigits (closes : Closes rest) : EndsDigits rest := by
  intro c first
  -- Each of the three marks is no digit.
  rcases closes c first with rfl | rfl | rfl <;> rfl

/-- A text with a first character that is no digit ends digits. -/
theorem endsDigits_cons {c : Char} (other : c.isDigit = false) : EndsDigits (c :: rest) := by
  rintro _ ⟨⟩
  exact other

/-- A numeral consists of digits. -/
theorem areDigits_numeral (value : ℕ) : AreDigits (Text.numeral value) := by
  -- A numeral has a length of at least one, so it is not empty.
  refine ⟨?_, Text.isDigit_of_mem_numeral value⟩
  have length := Text.length_numeral value
  intro empty
  rw [empty] at length
  cases length

/-- The numeral of a positive number has no leading zero. -/
theorem head?_numeral {value : ℕ} (positive : 0 < value) :
    (Text.numeral value).head? ≠ some '0' := by
  -- The induction follows the numeral, whose first digit is that of the tens while there are any.
  induction value using Text.numeral.induct with
  | case1 value small =>
    rw [Text.numeral, if_pos small]
    have other : ∀ digit < 10, 0 < digit → Text.digitChar digit ≠ '0' := by decide
    simpa using other value small positive
  | case2 value large ih =>
    rw [Text.numeral, if_neg large, List.head?_append_of_ne_nil _ (areDigits_numeral _).nonempty]
    exact ih (by omega)

/-- No numeral has a leading zero that is not all of it. -/
theorem trimmed_numeral (value : ℕ) :
    (Text.numeral value).head? ≠ some '0' ∨ (Text.numeral value).length = 1 := by
  -- Zero is the only number that starts with a zero, and is one digit long.
  rcases Nat.eq_zero_or_pos value with rfl | positive
  · exact .inr (Text.length_numeral 0)
  · exact .inl (head?_numeral positive)

/-- Digits are read up to the end of them. -/
theorem readRun?_append (are : AreDigits digits) (ends : EndsDigits rest) :
    readRun? (digits ++ rest) = some (digits, rest) := by
  -- The run takes all the digits and stops in front of the first other character.
  have stop : rest.takeWhile Char.isDigit = [] ∧ rest.dropWhile Char.isDigit = rest := by
    cases rest with
    | nil => exact ⟨rfl, rfl⟩
    | cons c rest =>
      have other : ¬ c.isDigit = true := by simp [ends c rfl]
      exact ⟨List.takeWhile_cons_of_neg other, List.dropWhile_cons_of_neg other⟩
  unfold readRun?
  rw [List.takeWhile_append_of_pos are.digits, List.dropWhile_append_of_pos are.digits, stop.1,
    stop.2, List.append_nil]
  cases digits with
  | nil => exact absurd rfl are.nonempty
  | cons => rfl

/-- Without a point there is no fraction. -/
theorem readFraction?_none (other : rest.head? ≠ some '.') :
    readFraction? rest = some ([], rest) := by
  -- A point is looked for first, and there is none.
  unfold readFraction?
  split
  · exact absurd rfl other
  · rfl

/-- Without a mark there is no exponent. -/
theorem readExponent?_none (other : rest.head? ≠ some 'e' ∧ rest.head? ≠ some 'E') :
    readExponent? rest = some (none, rest) := by
  unfold readExponent?
  split
  · exact absurd rfl other.1
  · exact absurd rfl other.2
  · rfl

/-- What closes a value begins no fraction. -/
theorem Closes.readFraction? (closes : Closes rest) : readFraction? rest = some ([], rest) := by
  -- Neither a comma nor a bracket is a point.
  refine readFraction?_none fun first => ?_
  rcases closes _ first with same | same | same <;> cases same

/-- Nor does it begin an exponent. -/
theorem Closes.readExponent? (closes : Closes rest) : readExponent? rest = some (none, rest) := by
  refine readExponent?_none ⟨fun first => ?_, fun first => ?_⟩ <;>
    rcases closes _ first with same | same | same <;> cases same

/-- The sign of an exponent is split off, and its digits are left. -/
theorem splitSign_exponent (exponent : ℤ) (rest : List Char) :
    Text.splitSign ((if 0 ≤ exponent then ['+'] else []) ++ Text.signedNumeral exponent ++ rest) =
      (decide (exponent < 0), Text.numeral exponent.natAbs ++ rest) := by
  -- Either the plus stands in front of the digits or the minus does.
  unfold Text.signedNumeral
  by_cases negative : exponent < 0
  · rw [if_neg (not_le.mpr negative), if_pos negative, decide_eq_true negative]
    rfl
  · rw [if_pos (not_lt.mp negative), if_neg negative, decide_eq_false negative]
    rfl

/-- An exponent is read back, with a sign in front of it or without one. -/
theorem readExponent?_some (exponent : ℤ) (ends : EndsDigits rest) :
    readExponent? ('e' :: (if 0 ≤ exponent then ['+'] else []) ++ Text.signedNumeral exponent ++
      rest) = some (some exponent, rest) := by
  -- The mark and the sign are read off, and what is left is a numeral.
  rw [List.cons_append, List.cons_append, readExponent?, splitSign_exponent]
  dsimp only
  rw [readRun?_append (areDigits_numeral _) ends]
  simp only [Option.bind_eq_bind, Option.bind_some, Text.readNumeral?_numeral, Option.pure_def,
    Option.some.injEq, Prod.mk.injEq, and_true, decide_eq_true_eq]
  omega

end Runs

section Tokens

variable {whole fraction tail behind rest : List Char} {exponent : Option ℤ} {coefficient : ℕ}

/-- A token is read part by part. -/
theorem readNumber?_eq (negative : Bool) (are : AreDigits whole)
    (trimmed : whole.head? ≠ some '0' ∨ whole.length = 1) (ends : EndsDigits tail)
    (fractionRead : readFraction? tail = some (fraction, behind))
    (exponentRead : readExponent? behind = some (exponent, rest))
    (number : Text.readNumeral? (whole ++ fraction) = some coefficient) :
    readNumber? (Text.withMinus negative (whole ++ tail)) =
      some (tokenValue negative fraction exponent coefficient, rest) := by
  -- A digit comes first, so the sign is told apart from it.
  obtain ⟨digit, others, rfl⟩ := List.exists_cons_of_ne_nil are.nonempty
  have unsigned : digit ≠ '-' := by
    rintro rfl
    exact Bool.false_ne_true (are.digits _ List.mem_cons_self)
  have sign : ((Text.withMinus negative (digit :: others ++ tail)).head? == some '-') = negative := by
    cases negative
    · simpa [Text.withMinus] using unsigned
    · rfl
  have body : (if negative then (Text.withMinus negative (digit :: others ++ tail)).drop 1
      else Text.withMinus negative (digit :: others ++ tail)) = digit :: others ++ tail := by
    cases negative <;> rfl
  unfold readNumber?
  dsimp only
  rw [sign, body, readRun?_append are ends]
  simp only [Option.bind_eq_bind, Option.bind_some, guard, if_pos trimmed, Option.pure_def,
    fractionRead, exponentRead, number]

/-- Digits with nothing behind them are an integer. -/
theorem readNumber?_int (value : ℤ) (closes : Closes rest) :
    readNumber? (Text.signedNumeral value ++ rest) = some (.int value, rest) := by
  -- The sign of an integer is written in front of the digits of its magnitude.
  have token : Text.signedNumeral value ++ rest =
      Text.withMinus (decide (value < 0)) (Text.numeral value.natAbs ++ rest) := by
    unfold Text.signedNumeral Text.withMinus
    simp only [decide_eq_true_eq]
    split <;> rfl
  have number : Text.readNumeral? (Text.numeral value.natAbs ++ []) = some value.natAbs := by
    rw [List.append_nil, Text.readNumeral?_numeral]
  rw [token, readNumber?_eq _ (areDigits_numeral _) (trimmed_numeral _) closes.endsDigits
    closes.readFraction? closes.readExponent? number]
  simp only [tokenValue, decide_eq_true_eq, Option.some.injEq, Prod.mk.injEq, Json.int.injEq,
    and_true]
  omega

/-- A number with a fraction is the nearest double. -/
theorem tokenValue_fraction (nonempty : fraction ≠ []) (negative : Bool) (exponent : Option ℤ)
    (coefficient : ℕ) : tokenValue negative fraction exponent coefficient =
      .double (.ofAnyDecimal negative coefficient (exponent.getD 0 - fraction.length)) := by
  -- Only a number without a fraction and without an exponent is an integer.
  cases fraction with
  | nil => exact absurd rfl nonempty
  | cons => rfl

/-- So is a number with an exponent. -/
theorem tokenValue_exponent (negative : Bool) (fraction : List Char) (exponent : ℤ)
    (coefficient : ℕ) : tokenValue negative fraction (some exponent) coefficient =
      .double (.ofAnyDecimal negative coefficient (exponent - fraction.length)) := by
  -- With a fraction or without one, the exponent makes it a double.
  cases fraction <;> rfl

end Tokens

section Doubles

variable {rest : List Char}

/-- Zeros behind digits multiply by powers of ten. -/
theorem readDigits?_zeros (value count : ℕ) :
    Text.readDigits? value (List.replicate count '0') = some (value * 10 ^ count) := by
  -- The induction is on the zeros, each of which multiplies what was read before.
  induction count generalizing value with
  | zero => simp [Text.readDigits?]
  | succ count ih =>
    have zero : Text.digitValue? '0' = some 0 := rfl
    rw [List.replicate_succ, Text.readDigits?, zero]
    simp only [Option.bind_eq_bind, Option.bind_some, ih, Option.some.injEq]
    ring

/-- A numeral with zeros behind it is read as a multiple of a power of ten. -/
theorem readNumeral?_zeros (value count : ℕ) :
    Text.readNumeral? (Text.numeral value ++ List.replicate count '0') =
      some (value * 10 ^ count) := by
  -- The numeral is read first, and the zeros go on from its value.
  unfold Text.readNumeral?
  rw [if_neg (by simpa using fun empty => absurd empty (areDigits_numeral value).nonempty),
    Text.readDigits?_append, Text.readDigits?_numeral]
  exact readDigits?_zeros value count

/-- An integer with zeros behind its digits is read with one more zero behind the point. -/
theorem readNumber?_whole (negative : Bool) {coefficient : ℕ} (zeros : ℕ)
    (trimmed : 0 < coefficient ∨ zeros = 0) (closes : Closes rest) :
    readNumber? (Text.withMinus negative (Text.numeral coefficient ++ List.replicate zeros '0' ++
      ['.', '0']) ++ rest) =
      some (.double (.ofAnyDecimal negative (coefficient * 10 ^ (zeros + 1)) (-1)), rest) := by
  -- In front of the point there are the digits and their zeros, with no zero at the start.
  have are : AreDigits (Text.numeral coefficient ++ List.replicate zeros '0') := by
    refine ⟨by simp [(areDigits_numeral coefficient).nonempty], ?_⟩
    intro c inside
    rcases List.mem_append.mp inside with digit | zero
    · exact (areDigits_numeral coefficient).digits c digit
    · rw [List.eq_of_mem_replicate zero]
      rfl
  have trimmed : (Text.numeral coefficient ++ List.replicate zeros '0').head? ≠ some '0' ∨
      (Text.numeral coefficient ++ List.replicate zeros '0').length = 1 := by
    rcases trimmed with positive | rfl
    · rw [List.head?_append_of_ne_nil _ (areDigits_numeral _).nonempty]
      exact .inl (head?_numeral positive)
    · simpa using trimmed_numeral coefficient
  have zero : AreDigits ['0'] := ⟨nofun, List.forall_mem_singleton.mpr rfl⟩
  have fraction : readFraction? ('.' :: '0' :: rest) = some (['0'], rest) :=
    readRun?_append zero closes.endsDigits
  have number : Text.readNumeral? (Text.numeral coefficient ++ List.replicate zeros '0' ++ ['0']) =
      some (coefficient * 10 ^ (zeros + 1)) := by
    rw [List.append_assoc, ← List.replicate_succ', readNumeral?_zeros]
  rw [Text.withMinus_append, List.append_assoc]
  exact readNumber?_eq negative are trimmed (endsDigits_cons rfl) fraction closes.readExponent? number

/-- Digits around a point are read together, with as many places as stand behind it. -/
theorem readNumber?_places (negative : Bool) (coefficient : ℕ) {places : ℕ} (positive : 0 < places)
    (closes : Closes rest) :
    let filled := Text.paddedNumeral (places + 1) coefficient
    readNumber? (Text.withMinus negative (filled.take (filled.length - places) ++
      '.' :: filled.drop (filled.length - places)) ++ rest) =
      some (.double (.ofAnyDecimal negative coefficient (-places)), rest) := by
  intro filled
  have length : filled.length = max (places + 1) (Nat.log 10 coefficient + 1) :=
    Text.length_paddedNumeral_eq _ _
  have digits : ∀ c ∈ filled, c.isDigit = true := Text.isDigit_of_mem_paddedNumeral _ _
  -- There is at least one digit on either side of the point.
  have are : AreDigits (filled.take (filled.length - places)) := by
    refine ⟨?_, fun c inside => digits c (List.mem_of_mem_take inside)⟩
    rw [← List.length_pos_iff, List.length_take]
    omega
  have are' : AreDigits (filled.drop (filled.length - places)) := by
    refine ⟨?_, fun c inside => digits c (List.mem_of_mem_drop inside)⟩
    rw [← List.length_pos_iff, List.length_drop]
    omega
  -- A numeral may be shorter than its places, and then a single zero stands in front.
  have trimmed : (filled.take (filled.length - places)).head? ≠ some '0' ∨
      (filled.take (filled.length - places)).length = 1 := by
    rcases Nat.lt_or_ge places (Nat.log 10 coefficient) with long | short
    · -- A numeral that is longer than its places is not padded.
      left
      have plain : filled = Text.numeral coefficient := by
        rw [show filled = _ from Text.paddedNumeral_eq _ _, Text.length_numeral,
          Nat.sub_eq_zero_of_le (by omega)]
        rfl
      rw [List.head?_take, if_neg (by omega), plain]
      refine head?_numeral (Nat.pos_of_ne_zero ?_)
      rintro rfl
      simp at long
    · right
      rw [List.length_take]
      omega
  -- Both parts are one padded numeral, which is read as the coefficient.
  have split : filled.take (filled.length - places) ++ filled.drop (filled.length - places) =
      filled := List.take_append_drop _ _
  have number : Text.readNumeral? (filled.take (filled.length - places) ++
      filled.drop (filled.length - places)) = some coefficient := by
    rw [split]
    exact Text.readNumeral?_paddedNumeral _ _
  have count : (filled.drop (filled.length - places)).length = places := by
    rw [List.length_drop]
    omega
  have fraction : readFraction? ('.' :: filled.drop (filled.length - places) ++ rest) =
      some (filled.drop (filled.length - places), rest) := readRun?_append are' closes.endsDigits
  rw [Text.withMinus_append, List.append_assoc]
  refine (readNumber?_eq negative are trimmed (endsDigits_cons rfl) fraction closes.readExponent?
    number).trans ?_
  rw [tokenValue_fraction are'.nonempty, count, Option.getD_none, zero_sub]

/-- A decimal in positional notation is read as the nearest double of its number. -/
theorem readNumber?_positional (negative : Bool) {x : ScaledDecimal}
    (trimmed : 0 < x.coefficient ∨ x.exponent = 0) (closes : Closes rest) :
    ∃ (coefficient : ℕ) (power : ℤ), (coefficient : ℚ) * 10 ^ power = x.number ∧
      readNumber? (Text.withMinus negative (doubleNotation.writePositional x) ++ rest) =
        some (.double (.ofAnyDecimal negative coefficient power), rest) := by
  unfold DoubleNotation.writePositional
  dsimp only
  -- Behind the point there is the one zero that is always written, or the places there are.
  split
  · rename_i whole
    obtain ⟨zeros, integer⟩ := Int.eq_ofNat_of_zero_le whole
    refine ⟨_, _, ?_, readNumber?_whole negative x.exponent.toNat (trimmed.imp_right ?_) closes⟩
    · rw [ScaledDecimal.number, integer, Int.toNat_natCast, pow_succ]
      push_cast
      rw [zpow_neg_one, zpow_natCast]
      field_simp
    · omega
  · rename_i part
    refine ⟨_, _, ?_, readNumber?_places negative x.coefficient (by omega) closes⟩
    rw [ScaledDecimal.number, Int.toNat_of_nonneg (by omega), neg_neg]

/-- So is a decimal with one digit before the point and an exponent. -/
theorem readNumber?_scientific (negative : Bool) (x : ScaledDecimal) (closes : Closes rest) :
    ∃ (coefficient : ℕ) (power : ℤ), (coefficient : ℚ) * 10 ^ power = x.number ∧
      readNumber? (Text.withMinus negative (doubleNotation.writeScientific x) ++ rest) =
        some (.double (.ofAnyDecimal negative coefficient power), rest) := by
  -- The first digit is in front of the point, and the others are the fraction.
  have number := Text.readNumeral?_numeral x.coefficient
  have all := areDigits_numeral x.coefficient
  have leading : x.leading = x.exponent + (Text.numeral x.coefficient).length - 1 := rfl
  unfold DoubleNotation.writeScientific
  dsimp only
  have plus : doubleNotation.plus.toList = ['+'] := rfl
  rw [Text.withMinus_append, plus]
  generalize Text.numeral x.coefficient = digits at *
  obtain ⟨first, others, rfl⟩ := List.exists_cons_of_ne_nil all.nonempty
  have are : AreDigits [first] :=
    ⟨by simp, by simpa using all.digits first List.mem_cons_self⟩
  have exponent := readExponent?_some x.leading closes.endsDigits
  -- With a single digit there is no point, and the mark follows at once.
  have fraction : readFraction? ((if (first :: others).length ≤ 1 then []
      else '.' :: (first :: others).drop 1) ++ ('e' :: (if 0 ≤ x.leading then ['+'] else []) ++
        Text.signedNumeral x.leading ++ rest)) =
      some (others, 'e' :: (if 0 ≤ x.leading then ['+'] else []) ++
        Text.signedNumeral x.leading ++ rest) := by
    cases others with
    | nil => exact readFraction?_none nofun
    | cons second others =>
      have are' : AreDigits (second :: others) :=
        ⟨nofun, fun c inside => all.digits c (List.mem_cons_of_mem _ inside)⟩
      exact readRun?_append are' (endsDigits_cons rfl)
  -- The places of the fraction lower the exponent again, which makes up for the moved point.
  refine ⟨x.coefficient, x.leading - others.length, ?_, ?_⟩
  · rw [ScaledDecimal.number, leading, List.length_cons]
    push_cast
    congr 2
    ring
  · have ends : EndsDigits ((if (first :: others).length ≤ 1 then []
        else '.' :: (first :: others).drop 1) ++ ('e' :: (if 0 ≤ x.leading then ['+'] else []) ++
          Text.signedNumeral x.leading ++ rest)) := by
      cases others with
      | nil => exact endsDigits_cons rfl
      | cons => exact endsDigits_cons rfl
    have token := readNumber?_eq negative are (.inr rfl) ends fraction exponent number
    rw [tokenValue_exponent] at token
    simpa only [List.take_succ_cons, List.take_zero, List.append_assoc, List.cons_append,
      List.nil_append] using token

/-- Every double that is a number is read back from its token. -/
theorem readNumber?_double {x : Binary64} {negative : Bool} {significand : ℕ} {exponent : ℤ}
    (finite : x.datum = .finite negative significand exponent) (closes : Closes rest) :
    readNumber? (doubleText x ++ rest) = some (.double x, rest) := by
  unfold doubleText DoubleNotation.write
  rw [finite]
  dsimp only
  -- A zero has no shortest digits of its own, but its digit is read as zero with any power.
  cases significand with
  | zero =>
    obtain ⟨coefficient, power, number, read⟩ := readNumber?_positional negative
      (x := ⟨0, 0⟩) (.inr rfl) closes
    have zero : coefficient = 0 := by
      have nonzero : (10 : ℚ) ^ power ≠ 0 := by positivity
      rw [ScaledDecimal.number, Nat.cast_zero, zero_mul, mul_eq_zero, or_iff_left nonzero] at number
      exact_mod_cast number
    refine read.trans ?_
    rw [zero, Binary64.ofAnyDecimal_zero finite]
  | succ significand =>
    have positive : 0 < significand + 1 := Nat.succ_pos significand
    -- The word determines a normalized significand, for which the shortest digits are the number.
    have normalized := (Binary64.word_of_datum finite).1.resolve_left fun zero => positive.ne' zero.1
    have holds := normalized.shortestDecimal_holds .toEven
    have numberPos := (normalized.log_bounds holds).1
    have digits : 0 < (shortestDecimal .toEven (significand + 1) exponent).coefficient := by
      refine Nat.pos_of_ne_zero fun zero => numberPos.ne' ?_
      rw [ScaledDecimal.number, zero, Nat.cast_zero, zero_mul]
    -- Either layout has digits of the same number.
    have token : ∃ (coefficient : ℕ) (power : ℤ), (coefficient : ℚ) * 10 ^ power =
        (shortestDecimal .toEven (significand + 1) exponent).number ∧
        readNumber? (Text.withMinus negative
          (if doubleNotation.positional (shortestDecimal .toEven (significand + 1) exponent).leading
            then doubleNotation.writePositional (shortestDecimal .toEven (significand + 1) exponent)
            else doubleNotation.writeScientific
              (shortestDecimal .toEven (significand + 1) exponent)) ++ rest) =
          some (.double (.ofAnyDecimal negative coefficient power), rest) := by
      split
      · exact readNumber?_positional negative (.inl digits) closes
      · exact readNumber?_scientific negative _ closes
    obtain ⟨coefficient, power, number, read⟩ := token
    refine read.trans ?_
    rw [Binary64.ofAnyDecimal_eq finite positive (number ▸ holds)]

end Doubles

end BsonTable.Json
