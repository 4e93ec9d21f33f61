import BsonTable.Proofs.Number.Rational

/-!
Rounding a ratio to a double: a power of two separates the words of the ratios on its two sides,
and only ratios up to half of the least double round to zero.
-/

namespace BsonTable

section Ratio

variable {num den : ℕ}

/-- Scaling keeps a denominator. -/
theorem scaleRatio_den_pos {base : ℕ} (positive : 0 < base) (num : ℕ) (held : 0 < den)
    (exponent : ℤ) :
    0 < (scaleRatio base num den exponent).2 := by
  -- The power goes to the denominator or to the numerator, and neither becomes zero.
  unfold scaleRatio
  split
  · exact Nat.mul_pos held (Nat.pow_pos positive)
  · exact held

/-- Scaling divides a ratio by the power of the base. -/
theorem scaleRatio_div (base num den : ℕ) (exponent : ℤ) :
    ((scaleRatio base num den exponent).1 : ℚ) / (scaleRatio base num den exponent).2 =
      (num : ℚ) / den / (base : ℚ) ^ exponent := by
  unfold scaleRatio
  split
  · rename_i upward
    -- A power that is no fraction goes below the line.
    have power : (base : ℚ) ^ exponent = (base : ℚ) ^ exponent.toNat := by
      rw [← zpow_natCast, Int.toNat_of_nonneg upward]
    simp only [Nat.pow_eq, Nat.cast_mul, Nat.cast_pow, power, div_div]
  · rename_i downward
    -- Any other power goes above it, as dividing by it is multiplying.
    have power : (base : ℚ) ^ exponent = ((base : ℚ) ^ (-exponent).toNat)⁻¹ := by
      rw [← zpow_natCast, Int.toNat_of_nonneg (by omega), zpow_neg, inv_inv]
    simp only [Nat.pow_eq, Nat.cast_mul, Nat.cast_pow, power, div_inv_eq_mul]
    ring

/-- The binary logarithm of a positive ratio is what it is taken for. -/
theorem ratioLog2_spec (above : 0 < num) (below : 0 < den) :
    (2 : ℚ) ^ ratioLog2 num den ≤ (num : ℚ) / den ∧
      (num : ℚ) / den < (2 : ℚ) ^ (ratioLog2 num den + 1) := by
  have denPos : (0 : ℚ) < den := by exact_mod_cast below
  -- Both bit lengths bound their number from both sides.
  have numLower : (2 : ℚ) ^ (num.log2 : ℤ) ≤ num := by
    exact_mod_cast Nat.log2_self_le above.ne'
  have numUpper : (num : ℚ) < (2 : ℚ) ^ ((num.log2 : ℤ) + 1) := by
    exact_mod_cast Nat.lt_log2_self (n := num)
  have denLower : (2 : ℚ) ^ (den.log2 : ℤ) ≤ den := by
    exact_mod_cast Nat.log2_self_le below.ne'
  have denUpper : (den : ℚ) < (2 : ℚ) ^ ((den.log2 : ℤ) + 1) := by
    exact_mod_cast Nat.lt_log2_self (n := den)
  have lower : (2 : ℚ) ^ ((num.log2 : ℤ) - den.log2 - 1) ≤ (num : ℚ) / den := by
    rw [le_div_iff₀ denPos]
    calc (2 : ℚ) ^ ((num.log2 : ℤ) - den.log2 - 1) * den
        ≤ 2 ^ ((num.log2 : ℤ) - den.log2 - 1) * 2 ^ ((den.log2 : ℤ) + 1) := by gcongr
      _ = 2 ^ (num.log2 : ℤ) := by rw [← zpow_add₀ two_ne_zero]; congr 1; ring
      _ ≤ num := numLower
  have upper : (num : ℚ) / den < (2 : ℚ) ^ ((num.log2 : ℤ) - den.log2 + 1) := by
    rw [div_lt_iff₀ denPos]
    calc (num : ℚ) < 2 ^ ((num.log2 : ℤ) + 1) := numUpper
      _ = 2 ^ ((num.log2 : ℤ) - den.log2 + 1) * 2 ^ (den.log2 : ℤ) := by
        rw [← zpow_add₀ two_ne_zero]; congr 1; ring
      _ ≤ 2 ^ ((num.log2 : ℤ) - den.log2 + 1) * den := by gcongr
  -- The comparison that decides is one with the estimate itself.
  have compared := scaleRatio_div 2 num den ((num.log2 : ℤ) - den.log2)
  have held := scaleRatio_den_pos two_pos num below ((num.log2 : ℤ) - den.log2)
  have heldRat : (0 : ℚ) < (scaleRatio 2 num den ((num.log2 : ℤ) - den.log2)).2 := by
    exact_mod_cast held
  have power : (0 : ℚ) < (2 : ℚ) ^ ((num.log2 : ℤ) - den.log2) := by positivity
  unfold ratioLog2
  dsimp only
  -- The estimate is right or one too great, which is what the comparison finds out.
  split
  · rename_i less
    have less : ((scaleRatio 2 num den ((num.log2 : ℤ) - den.log2)).1 : ℚ) <
        (scaleRatio 2 num den ((num.log2 : ℤ) - den.log2)).2 := by exact_mod_cast less
    rw [← div_lt_one heldRat, compared, Nat.cast_ofNat, div_lt_one power] at less
    exact ⟨lower, by rwa [sub_add_cancel]⟩
  · rename_i notLess
    have atLeast : ((scaleRatio 2 num den ((num.log2 : ℤ) - den.log2)).2 : ℚ) ≤
        (scaleRatio 2 num den ((num.log2 : ℤ) - den.log2)).1 := by
      exact_mod_cast Nat.not_lt.mp notLess
    rw [← one_le_div heldRat, compared, Nat.cast_ofNat, one_le_div power] at atLeast
    exact ⟨atLeast, upper⟩

/-- Rounding stays above any integer that the ratio is above. -/
theorem le_divideToNearestEven {bound : ℕ} (held : 0 < den) (above : bound * den ≤ num) :
    bound ≤ divideToNearestEven num den := by
  -- The quotient is above the bound already, and rounding only adds to it.
  have quotient : bound ≤ num / den := (Nat.le_div_iff_mul_le held).mpr above
  unfold divideToNearestEven
  dsimp only
  split
  · exact quotient
  · split <;> omega

/-- Rounding stays below any integer that the ratio is below. -/
theorem divideToNearestEven_le {bound : ℕ} (held : 0 < den) (below : num ≤ bound * den) :
    divideToNearestEven num den ≤ bound := by
  have whole := Nat.div_add_mod num den
  unfold divideToNearestEven
  dsimp only
  -- Below the bound there is room for rounding up.
  by_cases room : num / den < bound
  · split
    · omega
    · split <;> omega
  · -- The quotient is the bound, and nothing is left over.
    have same : num / den = bound :=
      Nat.le_antisymm (Nat.div_le_of_le_mul (by rwa [Nat.mul_comm])) (Nat.not_lt.mp room)
    rw [same, Nat.mul_comm] at whole
    have exact : num % den = 0 := by omega
    rw [exact, same, if_pos (by omega)]

/-- Only up to one half, which goes to the even neighbour, a ratio rounds to zero. -/
theorem divideToNearestEven_eq_zero_iff (held : 0 < den) :
    divideToNearestEven num den = 0 ↔ 2 * num ≤ den := by
  -- Nothing else rounds to zero, as a quotient that is not zero stays.
  have whole := Nat.div_add_mod num den
  constructor
  · intro zero
    unfold divideToNearestEven at zero
    dsimp only at zero
    generalize num / den = quotient at zero whole
    have none : quotient = 0 := by
      split at zero
      · exact zero
      · split at zero <;> omega
    rw [none, Nat.mul_zero, Nat.zero_add] at whole
    split at zero
    · omega
    · split at zero <;> omega
  · intro small
    -- A ratio below one has itself as what is left over.
    have none : num / den = 0 := Nat.div_eq_of_lt (by omega)
    have rest : num % den = num := Nat.mod_eq_of_lt (by omega)
    unfold divideToNearestEven
    dsimp only
    rw [none, rest]
    split
    · rfl
    · split
      · rfl
      · omega

/-- A scaled ratio rounds to at least any integer that it is at least. -/
theorem le_divide_scaleRatio {bound : ℕ} {exponent : ℤ} (held : 0 < den)
    (above : (bound : ℚ) ≤ (num : ℚ) / den / 2 ^ exponent) :
    bound ≤ divideToNearestEven (scaleRatio 2 num den exponent).1
      (scaleRatio 2 num den exponent).2 := by
  -- The scaled ratio is the ratio divided by the power, so the bound is one of integers.
  have scaledHeld := scaleRatio_den_pos two_pos num held exponent
  have scaled := scaleRatio_div 2 num den exponent
  rw [Nat.cast_ofNat] at scaled
  rw [← scaled, le_div_iff₀ (by exact_mod_cast scaledHeld)] at above
  exact le_divideToNearestEven scaledHeld (by exact_mod_cast above)

/-- A scaled ratio rounds to at most any integer that it is at most. -/
theorem divide_scaleRatio_le {bound : ℕ} {exponent : ℤ} (held : 0 < den)
    (below : (num : ℚ) / den / 2 ^ exponent ≤ bound) :
    divideToNearestEven (scaleRatio 2 num den exponent).1
      (scaleRatio 2 num den exponent).2 ≤ bound := by
  have scaledHeld := scaleRatio_den_pos two_pos num held exponent
  have scaled := scaleRatio_div 2 num den exponent
  rw [Nat.cast_ofNat] at scaled
  rw [← scaled, div_le_iff₀ (by exact_mod_cast scaledHeld)] at below
  exact divideToNearestEven_le scaledHeld (by exact_mod_cast below)

end Ratio

namespace BinaryFormat

variable {num den : ℕ}

/-- The word of a positive ratio: the steps of its exponent, then the rounded significand. -/
theorem roundWord_double (above : 0 < num) :
    double.roundWord num den =
      let exponent := max (ratioLog2 num den - 52) (-1074)
      min ((exponent + 1074).toNat * 2 ^ 52 +
        divideToNearestEven (scaleRatio 2 num den exponent).1 (scaleRatio 2 num den exponent).2)
        (2047 * 2 ^ 52) := by
  have least : double.leastExponent = -1074 := by decide
  have top : double.infinityWord = 2047 * 2 ^ 52 := by decide
  -- The bounds of the format are put in as numbers.
  unfold roundWord
  rw [if_neg above.ne', least, top]
  simp only [double, Nat.pow_eq, Nat.cast_ofNat, sub_neg_eq_add]

/-- A ratio that is at least a power of two has at least its word, which has no fraction. -/
theorem le_roundWord {field : ℕ} (held : 0 < den) (normal : 0 < field) (bounded : field ≤ 2047)
    (above : (2 : ℚ) ^ ((field : ℤ) - 1023) ≤ (num : ℚ) / den) :
    field * 2 ^ 52 ≤ double.roundWord num den := by
  have denPos : (0 : ℚ) < den := by exact_mod_cast held
  have positive : 0 < num := by
    have ratio : (0 : ℚ) < (num : ℚ) / den := lt_of_lt_of_le (by positivity) above
    exact_mod_cast (div_pos_iff_of_pos_right denPos).mp ratio
  obtain ⟨lower, upper⟩ := ratioLog2_spec positive held
  -- The logarithm is at least the power, so the significand has all of its bits.
  have logarithm : (field : ℤ) - 1023 ≤ ratioLog2 num den :=
    Int.lt_add_one_iff.mp ((zpow_lt_zpow_iff_right₀ one_lt_two).mp (above.trans_lt upper))
  have exponent : max (ratioLog2 num den - 52) (-1074) = ratioLog2 num den - 52 := by omega
  have significand : 2 ^ 52 ≤ divideToNearestEven
      (scaleRatio 2 num den (ratioLog2 num den - 52)).1
      (scaleRatio 2 num den (ratioLog2 num den - 52)).2 := by
    apply le_divide_scaleRatio held
    rw [le_div_iff₀ (by positivity)]
    calc ((2 ^ 52 : ℕ) : ℚ) * 2 ^ (ratioLog2 num den - 52)
        = 2 ^ (52 : ℤ) * 2 ^ (ratioLog2 num den - 52) := by norm_num
      _ = 2 ^ ratioLog2 num den := by rw [← zpow_add₀ two_ne_zero]; congr 1; ring
      _ ≤ num / den := lower
  rw [roundWord_double positive]
  dsimp only
  rw [exponent]
  omega

/-- A ratio below a power of two has at most its word. -/
theorem roundWord_le {field : ℕ} (held : 0 < den) (normal : 0 < field)
    (below : (num : ℚ) / den < (2 : ℚ) ^ ((field : ℤ) - 1023)) :
    double.roundWord num den ≤ field * 2 ^ 52 := by
  rcases Nat.eq_zero_or_pos num with rfl | positive
  · exact Nat.zero_le _
  obtain ⟨lower, upper⟩ := ratioLog2_spec positive held
  have logarithm : ratioLog2 num den < (field : ℤ) - 1023 :=
    (zpow_lt_zpow_iff_right₀ one_lt_two).mp (lower.trans_lt below)
  rw [roundWord_double positive]
  dsimp only
  -- Above the subnormal numbers a significand has fifty-three bits, and below them fewer.
  by_cases subnormal : ratioLog2 num den < -1022
  · have exponent : max (ratioLog2 num den - 52) (-1074) = -1074 := by omega
    have significand : divideToNearestEven (scaleRatio 2 num den (-1074)).1
        (scaleRatio 2 num den (-1074)).2 ≤ 2 ^ 52 := by
      apply divide_scaleRatio_le held
      rw [div_le_iff₀ (by positivity)]
      calc (num : ℚ) / den ≤ 2 ^ (ratioLog2 num den + 1) := upper.le
        _ ≤ 2 ^ (-1022 : ℤ) := zpow_le_zpow_right₀ one_le_two (by omega)
        _ = ((2 ^ 52 : ℕ) : ℚ) * 2 ^ (-1074 : ℤ) := by
          rw [Nat.cast_pow, ← zpow_natCast, Nat.cast_ofNat, ← zpow_add₀ two_ne_zero]; rfl
    -- Without a leading bit the word is the significand, which is at most that of the least normal.
    rw [exponent]
    omega
  · have exponent : max (ratioLog2 num den - 52) (-1074) = ratioLog2 num den - 52 := by omega
    have significand : divideToNearestEven
        (scaleRatio 2 num den (ratioLog2 num den - 52)).1
        (scaleRatio 2 num den (ratioLog2 num den - 52)).2 ≤ 2 ^ 53 := by
      apply divide_scaleRatio_le held
      rw [div_le_iff₀ (by positivity)]
      calc (num : ℚ) / den ≤ 2 ^ (ratioLog2 num den + 1) := upper.le
        _ = ((2 ^ 53 : ℕ) : ℚ) * 2 ^ (ratioLog2 num den - 52) := by
          rw [Nat.cast_pow, ← zpow_natCast, Nat.cast_ofNat, ← zpow_add₀ two_ne_zero]
          congr 1; push_cast; ring
    -- The significand may be rounded up to the next power, which has the next word.
    rw [exponent]
    omega

/-- Ratios up to half of the least double round to zero, and no others. -/
theorem roundWord_eq_zero_iff (held : 0 < den) :
    double.roundWord num den = 0 ↔ (num : ℚ) / den ≤ 2 ^ (-1075 : ℤ) := by
  rcases Nat.eq_zero_or_pos num with rfl | positive
  · simp [roundWord]
  by_cases normal : (2 : ℚ) ^ (-1022 : ℤ) ≤ (num : ℚ) / den
  · -- A normal number has the word of a power of two below it.
    have word : 1 * 2 ^ 52 ≤ double.roundWord num den :=
      le_roundWord held one_pos (by norm_num) normal
    have small : (2 : ℚ) ^ (-1075 : ℤ) < 2 ^ (-1022 : ℤ) :=
      zpow_lt_zpow_right₀ one_lt_two (by norm_num)
    constructor
    · intro zero; omega
    · intro tiny; exact absurd (small.trans_le normal) (not_lt.mpr tiny)
  · obtain ⟨lower, -⟩ := ratioLog2_spec positive held
    have logarithm : ratioLog2 num den < -1022 :=
      (zpow_lt_zpow_iff_right₀ one_lt_two).mp (lower.trans_lt (not_le.mp normal))
    have exponent : max (ratioLog2 num den - 52) (-1074) = -1074 := by omega
    have scaledHeld := scaleRatio_den_pos two_pos num held (-1074)
    have scaled := scaleRatio_div 2 num den (-1074)
    rw [Nat.cast_ofNat] at scaled
    rw [roundWord_double positive]
    dsimp only
    rw [exponent]
    -- What is left of the word is the significand in units of the least double.
    have word : min ((-1074 + 1074 : ℤ).toNat * 2 ^ 52 +
        divideToNearestEven (scaleRatio 2 num den (-1074)).1 (scaleRatio 2 num den (-1074)).2)
        (2047 * 2 ^ 52) = 0 ↔ 2 * (scaleRatio 2 num den (-1074)).1 ≤
          (scaleRatio 2 num den (-1074)).2 := by
      rw [← divideToNearestEven_eq_zero_iff scaledHeld]
      omega
    have halves : (2 : ℚ) ^ (-1075 : ℤ) = 1 / 2 * 2 ^ (-1074 : ℤ) := by
      rw [one_div, ← zpow_neg_one, ← zpow_add₀ two_ne_zero]; rfl
    have scaledPos : (0 : ℚ) < (scaleRatio 2 num den (-1074)).2 := by exact_mod_cast scaledHeld
    rw [word, halves, ← div_le_iff₀ (by positivity), ← scaled, div_le_iff₀ scaledPos,
      ← Nat.cast_le (α := ℚ)]
    push_cast
    constructor <;> intro <;> linarith

/-- No rounding leaves the words of numbers and the infinity. -/
theorem roundWord_le_infinity (num den : ℕ) : double.roundWord num den ≤ 2047 * 2 ^ 52 := by
  -- The greatest word is that of the infinity, and rounding is cut off there.
  have top : double.infinityWord = 2047 * 2 ^ 52 := by decide
  unfold roundWord
  split
  · exact Nat.zero_le _
  · rw [← top]
    exact Nat.min_le_right _ _

/-- A word beside a sign bit decodes by its own fields. -/
theorem decode_withSign (negative : Bool) {word : ℕ} (unsigned : word < 2 ^ 63) :
    double.decode (double.withSign negative word) =
      if word / 2 ^ 52 = 2047 then if word % 2 ^ 52 = 0 then .infinite negative else .nan
      else if word / 2 ^ 52 = 0 then .finite negative word (-1074)
      else .finite negative (2 ^ 52 + word % 2 ^ 52) ((word / 2 ^ 52 : ℕ) - 1075) := by
  have weight : double.signWeight = 2 ^ 63 := by decide
  have top : double.topExponent = 2047 := by decide
  have least : double.leastExponent = -1074 := by decide
  -- The sign bit stands above both fields, and disturbs neither.
  obtain ⟨signed, fraction, field⟩ :
      decide (2 ^ 63 ≤ double.withSign negative word) = negative ∧
        double.withSign negative word % 2 ^ 52 = word % 2 ^ 52 ∧
        double.withSign negative word / 2 ^ 52 % 2 ^ 11 = word / 2 ^ 52 := by
    unfold withSign
    rw [weight]
    cases negative
    · rw [if_neg Bool.false_ne_true]
      exact ⟨decide_eq_false (by omega), rfl, by omega⟩
    · rw [if_pos rfl]
      exact ⟨decide_eq_true (by omega), by omega, by omega⟩
  have fractionBits : double.fractionBits = 52 := rfl
  have exponentBits : double.exponentBits = 11 := rfl
  unfold decode
  simp only [weight, top, least, fractionBits, exponentBits, Nat.pow_eq, signed, fraction, field]
  split
  · rfl
  · split
    · rename_i subnormal
      rw [Nat.mod_eq_of_lt (by omega)]
    · congr 1
      omega

end BinaryFormat

namespace Binary64

variable {num den : ℕ}

/-- The number nearest to a ratio is the datum of its rounded word. -/
theorem datum_ofRatio (negative : Bool) (num den : ℕ) :
    (ofRatio negative num den).datum =
      BinaryFormat.double.decode
        (BinaryFormat.double.withSign negative (BinaryFormat.double.roundWord num den)) := by
  -- The sign bit and a word up to infinity fit into sixty-four bits.
  have bounded := BinaryFormat.roundWord_le_infinity num den
  have weight : BinaryFormat.double.signWeight = 2 ^ 63 := by decide
  have small : BinaryFormat.double.withSign negative (BinaryFormat.double.roundWord num den) <
      2 ^ 64 := by
    unfold BinaryFormat.withSign
    rw [weight]
    split <;> omega
  unfold ofRatio datum
  rw [UInt64.toNat_ofNat_of_lt' small]

/-- The datum of a rounded ratio: an infinity, a subnormal number or a normal one. -/
theorem datum_ofRatio_cases (negative : Bool) (num den : ℕ) :
    let word := BinaryFormat.double.roundWord num den
    (word = 2047 * 2 ^ 52 ∧ (ofRatio negative num den).datum = .infinite negative) ∨
      (word < 2 ^ 52 ∧ (ofRatio negative num den).datum = .finite negative word (-1074)) ∨
      ∃ field fraction : ℕ, word = field * 2 ^ 52 + fraction ∧ 0 < field ∧ fraction < 2 ^ 52 ∧
        (ofRatio negative num den).datum =
          .finite negative (2 ^ 52 + fraction) ((field : ℤ) - 1075) := by
  -- Which case it is depends on the field of the exponent: all ones, all zeros or neither.
  have bounded := BinaryFormat.roundWord_le_infinity num den
  rw [datum_ofRatio, BinaryFormat.decode_withSign negative (by omega)]
  generalize BinaryFormat.double.roundWord num den = word at bounded
  dsimp only
  by_cases top : word / 2 ^ 52 = 2047
  · left
    rw [if_pos top, if_pos (by omega)]
    exact ⟨by omega, rfl⟩
  · right
    rw [if_neg top]
    by_cases subnormal : word / 2 ^ 52 = 0
    · left
      rw [if_pos subnormal]
      exact ⟨by omega, rfl⟩
    · right
      rw [if_neg subnormal]
      exact ⟨word / 2 ^ 52, word % 2 ^ 52, by omega, by omega, by omega, rfl⟩

/-- A ratio is rounded to a number or an infinity. -/
theorem isNaN_ofRatio (negative : Bool) (num den : ℕ) :
    (ofRatio negative num den).isNaN = false := by
  -- None of the three data is the one that stands for no number.
  unfold isNaN
  rcases datum_ofRatio_cases negative num den with
    ⟨-, datum⟩ | ⟨-, datum⟩ | ⟨field, fraction, -, -, -, datum⟩
  all_goals rw [datum]; rfl

/-- A ratio rounds to a zero exactly up to half of the least double. -/
theorem isZero_ofRatio_iff (negative : Bool) (held : 0 < den) :
    (ofRatio negative num den).isZero = true ↔ (num : ℚ) / den ≤ 2 ^ (-1075 : ℤ) := by
  -- A zero is the word without any bits, and that is when the ratio is tiny.
  rw [← BinaryFormat.roundWord_eq_zero_iff held]
  unfold isZero
  rcases datum_ofRatio_cases negative num den with
    ⟨top, datum⟩ | ⟨-, datum⟩ | ⟨field, fraction, fields, positive, -, datum⟩
  · rw [datum]
    exact iff_of_false Bool.false_ne_true (by omega)
  · rw [datum]
    exact beq_iff_eq
  · rw [datum]
    -- The leading bit of a normal number is not stored, but counts.
    exact iff_of_false (by simp) (by omega)

/-- The integer part of a significand times a power of two rounds down. -/
theorem integerPart_eq (significand : ℕ) (exponent : ℤ) :
    integerPart significand exponent = ⌊(significand : ℚ) * 2 ^ exponent⌋₊ := by
  -- A power that is no fraction multiplies, and any other is a divisor.
  unfold integerPart
  split
  · rename_i upward
    have power : (2 : ℚ) ^ exponent = ((2 ^ exponent.toNat : ℕ) : ℚ) := by
      rw [Nat.cast_pow, ← zpow_natCast, Int.toNat_of_nonneg upward, Nat.cast_ofNat]
    rw [power, ← Nat.cast_mul, Nat.floor_natCast, Nat.pow_eq]
  · rename_i downward
    have power : (2 : ℚ) ^ exponent = ((2 ^ (-exponent).toNat : ℕ) : ℚ)⁻¹ := by
      rw [Nat.cast_pow, ← zpow_natCast, Int.toNat_of_nonneg (by omega), Nat.cast_ofNat, zpow_neg,
        inv_inv]
    rw [power, ← div_eq_mul_inv, Nat.floor_div_eq_div, Nat.pow_eq]

/-- Clamping keeps integers within the 64-bit ones, and moves others to the nearer bound. -/
theorem toInt_clampToInt64 (value : ℤ) :
    (clampToInt64 value).toInt = max (-2 ^ 63) (min value (2 ^ 63 - 1)) := by
  unfold clampToInt64
  -- The bounds are those of the word, so the clamped integer always fits.
  simp only [Nat.pow_eq, Nat.cast_pow, Nat.cast_ofNat]
  exact Int64.toInt_ofInt_of_le (by omega) (by omega)

/-- Clamping keeps a 64-bit integer. -/
theorem clampToInt64_of_fits {value : ℤ} (fits : -2 ^ 63 ≤ value ∧ value < 2 ^ 63) :
    clampToInt64 value = Int64.ofInt value := by
  -- Within the bounds clamping does nothing.
  rw [← Int64.toInt_inj, toInt_clampToInt64, Int64.toInt_ofInt_of_le fits.1 fits.2]
  omega

/-- Beyond the 64-bit integers clamping answers the bound of the sign. -/
theorem clampToInt64_signed (negative : Bool) {magnitude : ℕ} (beyond : 2 ^ 63 ≤ magnitude) :
    clampToInt64 (signed negative (magnitude : ℤ)) =
      if negative then Int64.minValue else Int64.maxValue := by
  -- The magnitude is beyond either bound, so the sign alone decides.
  rw [← Int64.toInt_inj, toInt_clampToInt64]
  unfold signed
  cases negative
  · rw [if_neg Bool.false_ne_true, if_neg Bool.false_ne_true, Int64.toInt_maxValue]
    omega
  · rw [if_pos rfl, if_pos rfl, Int64.toInt_minValue]
    omega

/-- A finite double is cut off after its point, and then at the bounds of the 64-bit integers. -/
theorem toInt64_of_finite {x : Binary64} {negative : Bool} {significand : ℕ} {exponent : ℤ}
    (finite : x.datum = .finite negative significand exponent) :
    x.toInt64 = clampToInt64 (signed negative (⌊(significand : ℚ) * 2 ^ exponent⌋₊ : ℤ)) := by
  -- Cutting off the fraction is rounding the magnitude down.
  unfold toInt64
  simp only [finite, integerPart_eq]
  rfl

/-- A ratio beyond the 64-bit integers is cut off at the nearer of their bounds. -/
theorem toInt64_ofRatio_of_le (negative : Bool) (held : 0 < den)
    (beyond : (2 : ℚ) ^ 63 ≤ (num : ℚ) / den) :
    (ofRatio negative num den).toInt64 = if negative then Int64.minValue else Int64.maxValue := by
  -- The word is at least that of the power, so its exponent is great.
  have large : 1086 * 2 ^ 52 ≤ BinaryFormat.double.roundWord num den := by
    apply BinaryFormat.le_roundWord held (by norm_num) (by norm_num)
    norm_num at beyond ⊢
    exact beyond
  rcases datum_ofRatio_cases negative num den with
    ⟨-, datum⟩ | ⟨small, -⟩ | ⟨field, fraction, fields, -, room, datum⟩
  · unfold toInt64
    rw [datum]
    cases negative <;> rfl
  · omega
  · rw [toInt64_of_finite datum]
    apply clampToInt64_signed
    -- Its exponent alone makes the number that great.
    have significand : (2 : ℚ) ^ (52 : ℤ) ≤ (2 ^ 52 + fraction : ℕ) := by
      push_cast
      norm_num
    have exponent : (2 : ℚ) ^ (11 : ℤ) ≤ 2 ^ ((field : ℤ) - 1075) :=
      zpow_le_zpow_right₀ one_le_two (by omega)
    apply Nat.le_floor
    calc ((2 ^ 63 : ℕ) : ℚ) = 2 ^ (52 : ℤ) * 2 ^ (11 : ℤ) := by norm_num
      _ ≤ ((2 ^ 52 + fraction : ℕ) : ℚ) * 2 ^ ((field : ℤ) - 1075) :=
        mul_le_mul significand exponent (by positivity) (Nat.cast_nonneg _)

/-- A ratio below one half has no integer part. -/
theorem toInt64_ofRatio_of_lt (negative : Bool) (held : 0 < den)
    (small : (num : ℚ) / den < 1 / 2) : (ofRatio negative num den).toInt64 = 0 := by
  -- Up to one half the word is at most that of one half.
  have little : BinaryFormat.double.roundWord num den ≤ 1022 * 2 ^ 52 := by
    apply BinaryFormat.roundWord_le held (by norm_num)
    norm_num
    exact small
  -- Whatever the fields are, the number that they make is below one.
  obtain ⟨significand, exponent, finite, below⟩ : ∃ (significand : ℕ) (exponent : ℤ),
      (ofRatio negative num den).datum = .finite negative significand exponent ∧
        (significand : ℚ) * 2 ^ exponent < 1 := by
    rcases datum_ofRatio_cases negative num den with
      ⟨top, -⟩ | ⟨subnormal, datum⟩ | ⟨field, fraction, fields, -, room, datum⟩
    · omega
    · refine ⟨_, _, datum, ?_⟩
      generalize BinaryFormat.double.roundWord num den = word at subnormal
      have bits : (word : ℚ) ≤ 2 ^ (52 : ℤ) := by exact_mod_cast subnormal.le
      calc (word : ℚ) * 2 ^ (-1074 : ℤ) ≤ 2 ^ (52 : ℤ) * 2 ^ (-1074 : ℤ) := by gcongr
        _ = 2 ^ (-1022 : ℤ) := by rw [← zpow_add₀ two_ne_zero]; rfl
        _ < 1 := zpow_lt_one_of_neg₀ one_lt_two (by norm_num)
    · refine ⟨_, _, datum, ?_⟩
      have bits : ((2 ^ 52 + fraction : ℕ) : ℚ) < 2 ^ (53 : ℤ) := by
        have rest : 2 ^ 52 + fraction < 2 ^ 53 := by omega
        exact_mod_cast rest
      have exponent : (2 : ℚ) ^ ((field : ℤ) - 1075) ≤ 2 ^ (-53 : ℤ) :=
        zpow_le_zpow_right₀ one_le_two (by omega)
      calc ((2 ^ 52 + fraction : ℕ) : ℚ) * 2 ^ ((field : ℤ) - 1075)
          < 2 ^ (53 : ℤ) * 2 ^ (-53 : ℤ) := mul_lt_mul bits exponent (by positivity) (by positivity)
        _ = 1 := by rw [← zpow_add₀ two_ne_zero]; rfl
  rw [toInt64_of_finite finite, Nat.floor_eq_zero.mpr below]
  cases negative <;> rfl

end Binary64

/-- A finite decimal is rounded to a double as a ratio. -/
theorem Decimal128.toBinary64_eq {x : Decimal128} {negative : Bool} {coefficient : ℕ}
    {exponent : ℤ} (finite : x.datum = .finite negative coefficient exponent) :
    ∃ num den : ℕ, x.toBinary64 = .ofRatio negative num den ∧ 0 < den ∧
      (num : ℚ) / den = coefficient * 10 ^ exponent := by
  -- The exponent of ten is put above or below the line of a ratio with integers.
  have value := scaleRatio_div 10 coefficient 1 (-exponent)
  rw [Nat.cast_one, div_one, zpow_neg, div_inv_eq_mul, Nat.cast_ofNat] at value
  refine ⟨_, _, ?_, scaleRatio_den_pos (by norm_num) coefficient one_pos (-exponent), value⟩
  unfold Decimal128.toBinary64 Binary64.ofDecimal
  rw [finite]

end BsonTable
