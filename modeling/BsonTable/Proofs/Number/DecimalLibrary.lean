import BsonTable.Proofs.Number.FixedPlaces
import BsonTable.Proofs.Text.Numeral
import BsonTable.Reading.Scalar

/-!
What is relied on of a library of decimals, and what decimals read as through any such library: a
function of the number, not of the digits and the exponent that it is stored with. Only for a zero
does the exponent count.
-/

namespace BsonTable

/-- A number rounded to twenty-eight decimal places, a half away from zero. -/
def Fixed96.limited (number : ℚ) : ℚ :=
  signed (decide (number < 0)) (halfUp (|number| * 10 ^ 28) / 10 ^ 28)

/-- The exponent behind digits, which always has a sign. -/
def Decimal128.exponentText (negative : Bool) (shift : ℕ) : List Char :=
  'E' :: (if negative then '-' else '+') :: Text.numeral shift

open DecimalLibrary in
/-- A library reads text as decimals of ninety-six bits with at most twenty-eight places. -/
class LawfulDecimalLibrary [DecimalLibrary] : Prop where
  /-- Plain digits read as their number, rounded to the places that are held of it. -/
  ofText?_plain (negative : Bool) (coefficient places : ℕ) :
    (ofText? (Text.withMinus negative (Decimal128.writePlain coefficient places))).map
        Fixed96.number =
      if Fixed96.HoldsPlaces (coefficient / 10 ^ places) 0 then
        some (signed negative (Fixed96.kept (coefficient / 10 ^ places)))
      else none
  /-- Text with a letter in it is no plain digits, however many digits are in front of it. -/
  ofText?_letter {text : List Char} {c : Char} (inside : c ∈ text) (letter : c.isAlpha = true) :
    ofText? text = none
  /-- Text without an exponent is left to the other reader. -/
  ofScientificText?_unmarked {text : List Char} (unmarked : 'E' ∉ text) :
    ofScientificText? text = none
  /-- An exponent of more than twenty-eight is refused, whatever the digits in front of it. -/
  ofScientificText?_far {digits : List Char} (unmarked : 'E' ∉ digits) (negative : Bool)
    {shift : ℕ} (far : 28 < shift) :
    ofScientificText? (digits ++ Decimal128.exponentText negative shift) = none
  /-- A negative exponent divides what the digits read as, which gives up places. -/
  ofScientificText?_divides {digits : List Char} {base : Fixed96}
    (read : ofText? digits = some base) {shift : ℕ} (near : shift ≤ 28) :
    (ofScientificText? (digits ++ Decimal128.exponentText true shift)).map Fixed96.number =
      some (Fixed96.limited (base.number / 10 ^ shift))
  /-- A positive exponent multiplies it, as long as ninety-six bits hold the integer. -/
  ofScientificText?_multiplies {digits : List Char} {base : Fixed96}
    (read : ofText? digits = some base) {shift : ℕ} (near : shift ≤ 28) {value : ℤ}
    (whole : base.number * 10 ^ shift = value) :
    (ofScientificText? (digits ++ Decimal128.exponentText false shift)).map Fixed96.number =
      if |value| < 2 ^ 96 then some (value : ℚ) else none

section Spelling

variable {x : Decimal128} {negative : Bool} {coefficient : ℕ} {exponent : ℤ}

/-- The exponent that a decimal is written with. -/
theorem Decimal128.adjustedExponent_eq (coefficient : ℕ) (exponent : ℤ) :
    Decimal128.adjustedExponent coefficient exponent = exponent + Nat.log 10 coefficient := by
  -- A numeral has one digit more than its logarithm.
  unfold Decimal128.adjustedExponent
  rw [Text.length_numeral]
  push_cast
  ring

/-- Plain digits have no positive exponent, and write no tiny number. -/
theorem Decimal128.isPlain_iff (coefficient : ℕ) (exponent : ℤ) :
    Decimal128.isPlain coefficient exponent = true ↔
      exponent ≤ 0 ∧ -6 ≤ exponent + Nat.log 10 coefficient := by
  -- The length of the digits is one more than the logarithm, which the exponent makes up for.
  unfold Decimal128.isPlain
  rw [decide_eq_true_iff, adjustedExponent_eq]

/-- A magnitude is tiny exactly when its leading digit stands behind the sixth place. -/
theorem Fixed96.tiny_iff (positive : 0 < coefficient) :
    (10 : ℚ) ^ (-6 : ℤ) ≤ coefficient * 10 ^ exponent ↔
      -6 ≤ exponent + Nat.log 10 coefficient := by
  have magnitude : (0 : ℚ) < coefficient * 10 ^ exponent := by positivity
  rw [← log_decimal positive, ← Int.zpow_le_iff_le_log (by norm_num) magnitude, Nat.cast_ofNat]

/-- Digits in front of an exponent are plain digits, with one in front of the point. -/
theorem Decimal128.writePlain_log (coefficient : ℕ) :
    writePlain coefficient (Nat.log 10 coefficient) =
      (Text.numeral coefficient).take 1 ++
        if (Text.numeral coefficient).length ≤ 1 then []
        else '.' :: (Text.numeral coefficient).drop 1 := by
  have length := Text.length_numeral coefficient
  unfold writePlain
  by_cases single : Nat.log 10 coefficient = 0
  · rw [if_pos single, if_pos (by omega), List.append_nil, List.take_of_length_le (by omega)]
  · -- A numeral of that many digits is not filled with zeros.
    have filled : Text.paddedNumeral (Nat.log 10 coefficient + 1) coefficient =
        Text.numeral coefficient := by
      rw [Text.paddedNumeral_eq, length, Nat.sub_self]
      rfl
    rw [if_neg single, if_neg (by omega), filled]
    dsimp only
    rw [length, Nat.add_sub_cancel_left]

/-- Plain digits have no exponent. -/
theorem Decimal128.unmarked_writePlain (negative : Bool) (coefficient places : ℕ) :
    'E' ∉ Text.withMinus negative (writePlain coefficient places) := by
  -- The sign is no mark, so only the digits are looked at.
  have digits : 'E' ∉ writePlain coefficient places := by
    unfold writePlain
    -- There is no mark in digits without a point, nor in digits around one.
    split
    · exact fun inside => nomatch Text.isDigit_of_mem_numeral coefficient 'E' inside
    · intro inside
      -- A mark on either side of the point would be a digit.
      have filled := Text.isDigit_of_mem_paddedNumeral (places + 1) coefficient 'E'
      rcases List.mem_append.mp inside with front | behind
      · exact nomatch filled (List.mem_of_mem_take front)
      · rcases List.mem_cons.mp behind with point | behind
        · cases point
        · exact nomatch filled (List.mem_of_mem_drop behind)
  unfold Text.withMinus
  split
  · exact fun inside => digits ((List.mem_cons.mp inside).resolve_left nofun)
  · exact digits

/-- The text of plain digits. -/
theorem Decimal128.text_of_plain (finite : x.datum = .finite negative coefficient exponent)
    (plain : isPlain coefficient exponent = true) :
    x.text = Text.withMinus negative (writePlain coefficient (-exponent).toNat) := by
  unfold text
  rw [finite]
  dsimp only
  rw [if_pos plain]

/-- The text of digits with an exponent, which is never that of a plain number. -/
theorem Decimal128.text_of_scientific (finite : x.datum = .finite negative coefficient exponent)
    (scientific : ¬ isPlain coefficient exponent = true) :
    x.text = Text.withMinus negative (writePlain coefficient (Nat.log 10 coefficient)) ++
      exponentText (decide (exponent + Nat.log 10 coefficient < 0))
        (exponent + Nat.log 10 coefficient).natAbs := by
  -- A number with the point behind its first digit is plain, so the point was moved.
  have moved : exponent + Nat.log 10 coefficient ≠ 0 := by
    rw [isPlain_iff] at scientific
    omega
  unfold text
  rw [finite]
  dsimp only
  rw [if_neg scientific, Text.withMinus_append, writePlain_log]
  unfold writeScientific exponentText Text.signedNumeral
  dsimp only
  rw [adjustedExponent_eq]
  -- What is left is the sign of the exponent, and there is one.
  rcases lt_or_gt_of_ne moved with below | above
  · simp only [decide_eq_true below, if_true, if_pos below, if_neg (not_lt.mpr below.le),
      List.append_assoc, List.cons_append, List.nil_append]
  · simp only [decide_eq_false (not_lt.mpr above.le), Bool.false_eq_true, if_false, if_pos above,
      if_neg (not_lt.mpr above.le), List.append_assoc, List.cons_append, List.nil_append]

end Spelling

section Rounding

/-- Dividing by a power of ten within the limit rounds to as many places fewer. -/
theorem Fixed96.limited_signed_div (negative : Bool) {magnitude : ℚ} (atLeast : 0 ≤ magnitude)
    {shift : ℕ} (near : shift ≤ 28) :
    limited (signed negative magnitude / 10 ^ shift) =
      signed negative ((halfUp (magnitude * 10 ^ (28 - shift)) : ℚ) / 10 ^ 28) := by
  -- The sign may be split off, as dividing does not change it.
  have split : signed negative magnitude / 10 ^ shift =
      signed negative (magnitude / 10 ^ shift) := by
    cases negative
    · rfl
    · exact neg_div _ _
  -- Moving the point one way and back leaves the difference of the two.
  have moved : magnitude / 10 ^ shift * 10 ^ 28 = magnitude * 10 ^ (28 - shift) := by
    obtain ⟨rest, sum⟩ := Nat.exists_eq_add_of_le near
    rw [sum, Nat.add_sub_cancel_left, pow_add]
    field_simp
  rw [limited, split, abs_signed negative (by positivity), moved]
  rcases atLeast.eq_or_lt with rfl | positive
  · -- Zero stays zero, and shows no sign.
    have zero : halfUp (0 * 10 ^ (28 - shift)) = 0 := by
      rw [zero_mul]
      exact halfUp_natCast 0
    rw [zero, Nat.cast_zero, zero_div, zero_div, (signed_eq_zero_iff negative 0).mpr rfl,
      (signed_eq_zero_iff _ 0).mpr rfl]
  · rw [decide_signed_lt negative (by positivity)]

/-- One digit in front of the point leaves ninety-six bits free. -/
theorem Fixed96.holdsPlaces_log (coefficient : ℕ) :
    HoldsPlaces ((coefficient : ℚ) / 10 ^ Nat.log 10 coefficient) 0 := by
  -- The logarithm is the greatest power of ten that the coefficient reaches.
  have digit : (coefficient : ℚ) < 10 ^ (Nat.log 10 coefficient + 1) := by
    exact_mod_cast Nat.lt_pow_succ_log_self (by norm_num) coefficient
  rw [pow_succ, mul_comm, ← div_lt_iff₀ (by positivity)] at digit
  unfold HoldsPlaces
  norm_num
  linarith

end Rounding

namespace Decimal128

open LawfulDecimalLibrary Fixed96

variable [DecimalLibrary] [LawfulDecimalLibrary]
variable {x : Decimal128} {negative : Bool} {coefficient : ℕ} {exponent : ℤ}

/-- Plain digits read as their number, rounded to the places that are held of it. -/
theorem toFixed?_of_plain (finite : x.datum = .finite negative coefficient exponent)
    (plain : isPlain coefficient exponent = true) :
    x.toFixed?.map number =
      if HoldsPlaces (coefficient / 10 ^ (-exponent).toNat) 0 then
        some (signed negative (kept (coefficient / 10 ^ (-exponent).toNat)))
      else none := by
  -- The second reader has nothing to add, as there is no exponent.
  have second := ofScientificText?_unmarked
    (unmarked_writePlain negative coefficient (-exponent).toNat)
  unfold toFixed?
  rw [text_of_plain finite plain, second, Option.orElse_eq_orElse, Option.orElse_eq_or,
    Option.or_none]
  exact ofText?_plain negative coefficient (-exponent).toNat

/-- Digits with an exponent are left to the second reader. -/
theorem toFixed?_of_scientific (finite : x.datum = .finite negative coefficient exponent)
    (scientific : ¬ isPlain coefficient exponent = true) :
    x.toFixed? = DecimalLibrary.ofScientificText?
      (Text.withMinus negative (writePlain coefficient (Nat.log 10 coefficient)) ++
        exponentText (decide (exponent + Nat.log 10 coefficient < 0))
          (exponent + Nat.log 10 coefficient).natAbs) := by
  -- The mark of the exponent is a letter, so the first reader gives up.
  unfold toFixed?
  have marked : 'E' ∈ Text.withMinus negative (writePlain coefficient (Nat.log 10 coefficient)) ++
      exponentText (decide (exponent + Nat.log 10 coefficient < 0))
        (exponent + Nat.log 10 coefficient).natAbs :=
    List.mem_append_right _ List.mem_cons_self
  rw [text_of_scientific finite scientific, ofText?_letter marked rfl]
  rfl

/-- The digits in front of an exponent read as a number with one digit in front of the point. -/
theorem ofText?_digits (negative : Bool) (coefficient : ℕ) :
    ∃ base, DecimalLibrary.ofText?
        (Text.withMinus negative (writePlain coefficient (Nat.log 10 coefficient))) = some base ∧
      base.number = signed negative (kept (coefficient / 10 ^ Nat.log 10 coefficient)) := by
  -- Such digits are below ten, so that they are held in any case.
  have plain := ofText?_plain negative coefficient (Nat.log 10 coefficient)
  rw [if_pos (holdsPlaces_log coefficient)] at plain
  exact Option.map_eq_some_iff.mp plain

/-- An exponent of more than twenty-eight reads as nothing. -/
theorem toFixed?_of_far (finite : x.datum = .finite negative coefficient exponent)
    (scientific : ¬ isPlain coefficient exponent = true)
    (far : 28 < (exponent + Nat.log 10 coefficient).natAbs) : x.toFixed? = none := by
  -- The refusal does not depend on the digits in front.
  rw [toFixed?_of_scientific finite scientific]
  exact ofScientificText?_far (unmarked_writePlain negative coefficient _) _ far

/-- A negative exponent within the limit divides the digits that are held. -/
theorem toFixed?_of_divided (finite : x.datum = .finite negative coefficient exponent)
    (scientific : ¬ isPlain coefficient exponent = true) {shift : ℕ} (near : shift ≤ 28)
    (moved : exponent + Nat.log 10 coefficient = -shift) (below : 0 < shift) :
    x.toFixed?.map number =
      some (signed negative ((halfUp (kept (coefficient / 10 ^ Nat.log 10 coefficient) *
        10 ^ (28 - shift)) : ℚ) / 10 ^ 28)) := by
  -- The digits in front read as some decimal, which the law then divides.
  obtain ⟨base, read, value⟩ := ofText?_digits negative coefficient
  have kept_nonneg : 0 ≤ kept ((coefficient : ℚ) / 10 ^ Nat.log 10 coefficient) := by
    unfold kept
    positivity
  have sign : decide (-(shift : ℤ) < 0) = true := decide_eq_true (by omega)
  rw [toFixed?_of_scientific finite scientific, moved, sign, Int.natAbs_neg, Int.natAbs_natCast,
    ofScientificText?_divides read near, value, limited_signed_div negative kept_nonneg near]

/-- Digits with a negative exponent are rounded with one digit before the point first. -/
theorem toFixed?_of_tiny (finite : x.datum = .finite negative coefficient exponent)
    (positive : 0 < coefficient) (tiny : exponent + Nat.log 10 coefficient < -6) :
    x.toFixed?.map number = (near? (coefficient * 10 ^ exponent)).map (signed negative) := by
  -- So small a number is never written plainly.
  have scientific : ¬ isPlain coefficient exponent = true := by
    rw [isPlain_iff]
    omega
  obtain ⟨shift, moved⟩ : ∃ shift : ℕ, exponent + Nat.log 10 coefficient = -(shift : ℤ) :=
    ⟨(-(exponent + Nat.log 10 coefficient)).toNat, by omega⟩
  -- Moving the point behind the leading digit takes the exponent away.
  have leading : (coefficient : ℚ) * 10 ^ exponent * 10 ^ shift =
      coefficient / 10 ^ Nat.log 10 coefficient := by
    rw [mul_assoc, ← zpow_natCast, ← zpow_add₀ (by norm_num), div_eq_mul_inv, ← zpow_natCast,
      ← zpow_neg]
    congr 2
    omega
  unfold near?
  rw [if_neg (by rw [tiny_iff positive]; omega)]
  dsimp only
  rw [log_decimal positive, moved, neg_neg, Int.toNat_natCast, leading]
  -- The two readings refuse beyond the same limit.
  by_cases far : 28 < shift
  · rw [if_pos far, toFixed?_of_far finite scientific (by omega)]
    rfl
  · rw [if_neg far, toFixed?_of_divided finite scientific (Nat.not_lt.mp far) moved (by omega)]
    rfl

/-- A positive exponent within the limit multiplies the digits, all of which are held. -/
theorem toFixed?_of_multiplied {zeros : ℕ} (finite : x.datum = .finite negative coefficient zeros)
    (great : 0 < zeros) (near : zeros + Nat.log 10 coefficient ≤ 28) :
    x.toFixed?.map number =
      if coefficient * 10 ^ zeros < 2 ^ 96 then
        some (signed negative ((coefficient * 10 ^ zeros : ℕ) : ℚ))
      else none := by
  have scientific : ¬ isPlain coefficient (zeros : ℤ) = true := by
    rw [isPlain_iff]
    omega
  obtain ⟨base, read, value⟩ := ofText?_digits negative coefficient
  -- Few enough digits are left for the coefficient to be kept whole.
  have short : coefficient < 10 ^ 28 :=
    (Nat.lt_pow_succ_log_self (by norm_num) coefficient).trans_le
      (Nat.pow_le_pow_right (by norm_num) (by omega))
  have whole : base.number * 10 ^ (zeros + Nat.log 10 coefficient) =
      (signed negative ((coefficient * 10 ^ zeros : ℕ) : ℤ) : ℤ) := by
    rw [value, kept_of_eq (short.trans (by norm_num)) (by omega)
      (div_mul_cancel₀ _ (by positivity)), pow_add]
    cases negative <;> simp only [signed, if_true, Bool.false_eq_true, if_false] <;> push_cast <;>
      field_simp
  -- The limit is on the magnitude, so the sign does not count for it.
  have magnitude : |(signed negative ((coefficient * 10 ^ zeros : ℕ) : ℤ) : ℤ)| =
      ((coefficient * 10 ^ zeros : ℕ) : ℤ) := by
    cases negative
    · exact abs_of_nonneg (Int.natCast_nonneg _)
    · exact (abs_neg _).trans (abs_of_nonneg (Int.natCast_nonneg _))
  have sign : decide ((zeros : ℤ) + Nat.log 10 coefficient < 0) = false :=
    decide_eq_false (by omega)
  have shift : ((zeros : ℤ) + Nat.log 10 coefficient).natAbs = zeros + Nat.log 10 coefficient := by
    omega
  rw [toFixed?_of_scientific finite scientific, sign, shift,
    ofScientificText?_multiplies read near whole, magnitude]
  norm_cast
  cases negative <;> rfl

/-- A decimal that is not zero reads as what its magnitude reads as, with its sign. -/
theorem toFixed?_of_pos (finite : x.datum = .finite negative coefficient exponent)
    (positive : 0 < coefficient) :
    x.toFixed?.map number = (near? (coefficient * 10 ^ exponent)).map (signed negative) := by
  -- The three ways to write a number all come to the same function of its magnitude.
  rcases lt_or_ge 0 exponent with great | whole
  · obtain ⟨zeros, rfl⟩ : ∃ zeros : ℕ, (zeros : ℤ) = exponent :=
      ⟨exponent.toNat, Int.toNat_of_nonneg great.le⟩
    have value : (coefficient : ℚ) * 10 ^ (zeros : ℤ) = ((coefficient * 10 ^ zeros : ℕ) : ℚ) := by
      push_cast
      rw [zpow_natCast]
    rw [value, near?_natCast (by positivity)]
    rcases lt_or_ge 28 (zeros + Nat.log 10 coefficient) with wide | near
    · -- A number with thirty digits is too great.
      have large : 10 ^ 29 ≤ coefficient * 10 ^ zeros := by
        calc 10 ^ 29 ≤ 10 ^ (Nat.log 10 coefficient + zeros) := by gcongr <;> omega
          _ = 10 ^ Nat.log 10 coefficient * 10 ^ zeros := pow_add _ _ _
          _ ≤ coefficient * 10 ^ zeros := by
            have digits := Nat.pow_log_le_self 10 positive.ne'
            gcongr
      have power : 2 ^ 96 < 10 ^ 29 := by norm_num
      rw [toFixed?_of_far finite (by rw [isPlain_iff]; omega) (by omega), if_neg (by omega)]
      rfl
    · -- The law and the reading of a magnitude ask for the same bound.
      rw [toFixed?_of_multiplied finite (by omega) near]
      split <;> rfl
  · rcases lt_or_ge (exponent + Nat.log 10 coefficient) (-6) with tiny | plain
    · exact toFixed?_of_tiny finite positive tiny
    · have magnitude : (coefficient : ℚ) * 10 ^ exponent =
          coefficient / 10 ^ (-exponent).toNat := by
        rw [div_eq_mul_inv, ← zpow_natCast, Int.toNat_of_nonneg (by omega), zpow_neg, inv_inv]
      rw [toFixed?_of_plain finite ((isPlain_iff coefficient exponent).mpr ⟨whole, plain⟩)]
      unfold near?
      rw [if_pos ((tiny_iff positive).mpr plain), magnitude]
      split <;> rfl

/-- What a decimal other than zero reads as depends on its number alone. -/
theorem toFixed?_eq {number : ℚ} (held : x.datum.number? = some number) (nonzero : number ≠ 0) :
    x.toFixed?.map Fixed96.number = (near? |number|).map (signed (decide (number < 0))) := by
  obtain ⟨negative, coefficient, exponent, finite, rfl⟩ := DecimalDatum.number?_eq_some held
  -- A number other than zero has a coefficient other than zero.
  have positive : 0 < coefficient := by
    rcases Nat.eq_zero_or_pos coefficient with rfl | positive
    · exact absurd ((signed_eq_zero_iff negative _).mpr (by rw [Nat.cast_zero, zero_mul])) nonzero
    · exact positive
  rw [toFixed?_of_pos finite positive, abs_signed negative (by positivity),
    decide_signed_lt negative (by positivity)]

/-- A zero reads as a number only if its exponent is limited, and then as zero. -/
theorem toFixed?_of_zero (finite : x.datum = .finite negative 0 exponent) :
    x.toFixed?.map number = if exponent.natAbs ≤ 28 then some 0 else none := by
  -- Nothing is rounded; all that counts is which of the texts the zero is written as.
  have zero := (signed_eq_zero_iff negative 0).mpr rfl
  have rounded : halfUp 0 = 0 := halfUp_natCast 0
  have keptZero : kept 0 = 0 := by
    rw [kept, zero_mul, rounded, Nat.cast_zero, zero_div]
  by_cases plain : exponent ≤ 0 ∧ -6 ≤ exponent
  · have written : isPlain 0 exponent = true :=
      (isPlain_iff 0 exponent).mpr ⟨plain.1, by simpa using plain.2⟩
    rw [toFixed?_of_plain finite written, Nat.cast_zero, zero_div, keptZero, zero,
      if_pos (by norm_num [HoldsPlaces]), if_pos (by omega)]
  · have scientific : ¬ isPlain 0 exponent = true := by
      rw [isPlain_iff, Nat.log_zero_right]
      omega
    -- With an exponent, its size is the only thing that is looked at.
    by_cases far : 28 < exponent.natAbs
    · rw [toFixed?_of_far finite scientific (by rwa [Nat.log_zero_right, Nat.cast_zero, add_zero]),
        if_neg (by omega)]
      rfl
    · rw [if_pos (by omega)]
      rcases Int.natAbs_eq exponent with above | below
      · rw [above] at finite
        rw [toFixed?_of_multiplied finite (by omega) (by rw [Nat.log_zero_right]; omega), zero_mul,
          Nat.cast_zero, zero, if_pos (by norm_num)]
      · rw [toFixed?_of_divided finite scientific (Nat.not_lt.mp far)
          (by rw [Nat.log_zero_right]; omega) (by omega), Nat.cast_zero, zero_div, keptZero,
          zero_mul, rounded, Nat.cast_zero, zero_div, zero]

/-- A name reads as nothing, as it has a letter and no exponent. -/
theorem toFixed?_of_name (negative : Bool) (c : Char) (rest : List Char)
    (letter : c.isAlpha = true) (unmarked : 'E' ∉ c :: rest)
    (written : x.text = Text.withMinus negative (c :: rest)) : x.toFixed? = none := by
  -- A sign in front adds neither a letter nor a mark.
  have inside : c ∈ Text.withMinus negative (c :: rest) := by
    cases negative
    · exact List.mem_cons_self
    · exact List.mem_cons_of_mem _ List.mem_cons_self
  have free : 'E' ∉ Text.withMinus negative (c :: rest) := by
    cases negative
    · exact unmarked
    · exact fun marked => unmarked ((List.mem_cons.mp marked).resolve_left nofun)
  unfold toFixed?
  rw [written, ofText?_letter inside letter, ofScientificText?_unmarked free]
  rfl

/-- What stands for no number reads as nothing. -/
theorem toFixed?_of_not_number (missing : x.datum.number? = none) : x.toFixed? = none := by
  -- There are two names, one of which may have a sign.
  cases datum : x.datum with
  | nan =>
    refine toFixed?_of_name false 'N' "aN".toList rfl (by decide) ?_
    unfold text
    rw [datum]
    rfl
  | infinite negative =>
    refine toFixed?_of_name negative 'I' "nfinity".toList rfl (by decide) ?_
    unfold text
    rw [datum]
    rfl
  | finite negative coefficient exponent =>
    rw [datum] at missing
    cases missing

end Decimal128

end BsonTable
