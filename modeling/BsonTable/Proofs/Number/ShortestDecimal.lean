import BsonTable.Number.Literal
import BsonTable.Number.Shortest
import BsonTable.Proofs.Number.BinaryRounding
import BsonTable.Proofs.Number.FixedPoint

/-!
The shortest decimal of a double reads back as that double: it lies among the reals that round to
it, and seventeen digits always find such a decimal.
-/

namespace BsonTable

section Rounding

variable {num den significand : ℕ}

/-- A ratio rounds to an integer that is at most half away from it, and even if it is that far. -/
theorem divideToNearestEven_eq (held : 0 < den)
    (below : 2 * (significand * den) ≤ 2 * num + den)
    (above : 2 * num ≤ 2 * (significand * den) + den)
    (tie : 2 * (significand * den) = 2 * num + den ∨ 2 * num = 2 * (significand * den) + den →
      significand % 2 = 0) :
    divideToNearestEven num den = significand := by
  -- The quotient is one of two neighbours, and the remainder tells which.
  unfold divideToNearestEven
  dsimp only
  rcases Nat.lt_or_ge num (significand * den) with short | reached
  · -- The ratio lies in the lower half, and is cut off to the integer before.
    obtain ⟨before, rfl⟩ : ∃ before, significand = before + 1 :=
      Nat.exists_eq_add_one.mpr (Nat.pos_of_mul_pos_right (Nat.zero_lt_of_lt short))
    rw [Nat.succ_mul before den] at below above tie short
    have quotient : num / den = before := by
      apply Nat.div_eq_of_lt_le (by omega)
      rwa [Nat.succ_mul]
    have remainder := Nat.mod_add_div num den
    rw [quotient, Nat.mul_comm] at remainder
    rw [quotient]
    split
    · omega
    · split
      · have even := tie (.inl (by omega))
        omega
      · rfl
  · -- The ratio lies in the upper half, and is cut off to the integer.
    have quotient : num / den = significand := by
      apply Nat.div_eq_of_lt_le reached
      rw [Nat.succ_mul]
      omega
    have remainder := Nat.mod_add_div num den
    rw [quotient, Nat.mul_comm] at remainder
    rw [quotient]
    split
    · rfl
    · split
      · rw [tie (.inr (by omega)), Nat.add_zero]
      · omega

/-- Whether a number rounds to an integer: at most half away from it, and if so from an even one. -/
structure RoundsTo (number : ℚ) (integer : ℕ) : Prop where
  below : integer - 1 / 2 ≤ number
  above : number ≤ integer + 1 / 2
  tie : number = integer - 1 / 2 ∨ number = integer + 1 / 2 → integer % 2 = 0

/-- A scaled ratio is rounded to the integer that it rounds to. -/
theorem divide_scaleRatio_eq {exponent : ℤ} (held : 0 < den)
    (rounds : RoundsTo ((num : ℚ) / den / 2 ^ exponent) significand) :
    divideToNearestEven (scaleRatio 2 num den exponent).1 (scaleRatio 2 num den exponent).2 =
      significand := by
  -- The ratio is scaled exactly, so rounding it rounds the number.
  have scaledHeld := scaleRatio_den_pos two_pos num held exponent
  have scaled := scaleRatio_div 2 num den exponent
  rw [Nat.cast_ofNat] at scaled
  rw [← scaled] at rounds
  generalize (scaleRatio 2 num den exponent).1 = n, (scaleRatio 2 num den exponent).2 = d at *
  have positive : (0 : ℚ) < d := by exact_mod_cast scaledHeld
  obtain ⟨below, above, tie⟩ := rounds
  rw [le_div_iff₀ positive] at below
  rw [div_le_iff₀ positive] at above
  rw [div_eq_iff positive.ne', div_eq_iff positive.ne'] at tie
  -- Twice the ratio leaves no fractions to compare.
  refine divideToNearestEven_eq scaledHeld ?_ ?_ fun ends => tie ?_
  · have twice : (2 : ℚ) * (significand * d) ≤ 2 * n + d := by linarith
    exact_mod_cast twice
  · have twice : (2 : ℚ) * n ≤ 2 * (significand * d) + d := by linarith
    exact_mod_cast twice
  · rcases ends with least | greatest
    · have twice : (2 : ℚ) * (significand * d) = 2 * n + d := by exact_mod_cast least
      left
      linarith
    · have twice : (2 : ℚ) * n = 2 * (significand * d) + d := by exact_mod_cast greatest
      right
      linarith

end Rounding

namespace RoundingInterval

/-- Whether a number lies in an interval, at whose ends a closed one has its own numbers. -/
structure Holds (interval : RoundingInterval) (number : ℚ) : Prop where
  below : interval.below * 2 ^ interval.exponent ≤ number
  above : number ≤ interval.above * 2 ^ interval.exponent
  inside : interval.closed = false →
    number ≠ interval.below * 2 ^ interval.exponent ∧
      number ≠ interval.above * 2 ^ interval.exponent

end RoundingInterval

/-- The significand and the exponent of a nonzero number in the double format. -/
structure IsNormalized (significand : ℕ) (exponent : ℤ) : Prop where
  positive : 0 < significand
  bounded : significand < 2 ^ 53
  least : -1074 ≤ exponent
  greatest : exponent ≤ 971
  /-- A significand is short only at the least exponent. -/
  full : exponent = -1074 ∨ 2 ^ 52 ≤ significand

namespace IsNormalized

variable {significand num den : ℕ} {exponent : ℤ} {number : ℚ}

/-- The ends of the interval are half a unit away, or on the side of smaller units a quarter. -/
theorem ofDouble_below (normalized : IsNormalized significand exponent) :
    ((RoundingInterval.ofDouble significand exponent).below : ℚ) =
      4 * significand - if significand = 2 ^ 52 ∧ exponent ≠ -1074 then 1 else 2 := by
  -- The distance on the lower side depends on the significand only.
  have positive := normalized.positive
  have bits : BinaryFormat.double.fractionBits = 52 := rfl
  have least : BinaryFormat.double.leastExponent = -1074 := by decide
  simp only [RoundingInterval.ofDouble, bits, least, Nat.pow_eq]
  split
  · rw [Nat.cast_sub (by omega)]
    push_cast
    ring
  · rw [Nat.cast_sub (by omega)]
    push_cast
    ring

/-- In units of the last place, the reals around a double round to its significand. -/
theorem roundsTo (normalized : IsNormalized significand exponent)
    (holds : (RoundingInterval.ofDouble significand exponent).Holds number) :
    RoundsTo (number / 2 ^ exponent) significand := by
  -- All ends are multiples of a quarter of the unit.
  have unit : (0 : ℚ) < 2 ^ exponent := by positivity
  have quarter : (2 : ℚ) ^ (exponent - 2) = 2 ^ exponent / 4 := by
    rw [zpow_sub₀ two_ne_zero]
    norm_num
  obtain ⟨below, above, inside⟩ := holds
  rw [normalized.ofDouble_below] at below inside
  simp only [RoundingInterval.ofDouble, quarter, decide_eq_false_iff_not] at below above inside
  push_cast at above
  -- Below a power of two the lower end is nearer, which is less than is allowed.
  constructor
  · rw [le_div_iff₀ unit]
    split at below <;> linarith
  · rw [div_le_iff₀ unit]
    linarith
  · -- An odd significand is no power of two, and the ends are not among its reals.
    intro ends
    by_contra odd
    have wide : ¬ (significand = 2 ^ 52 ∧ exponent ≠ -1074) := by
      rintro ⟨rfl, -⟩
      exact odd (by norm_num)
    obtain ⟨notBelow, notAbove⟩ := inside odd
    rw [if_neg wide] at notBelow
    push_cast at notAbove
    rw [div_eq_iff unit.ne', div_eq_iff unit.ne'] at ends
    rcases ends with least | greatest
    · exact notBelow (by linarith)
    · exact notAbove (by linarith)

/-- A real in the next lower range that rounds to a double is near to a power of two. -/
theorem roundsTo_lower (normalized : IsNormalized significand exponent) (room : exponent ≠ -1074)
    (lower : number < 2 ^ 52 * 2 ^ exponent)
    (holds : (RoundingInterval.ofDouble significand exponent).Holds number) :
    significand = 2 ^ 52 ∧ RoundsTo (number / 2 ^ (exponent - 1)) (2 ^ 53) := by
  have unit : (0 : ℚ) < 2 ^ exponent := by positivity
  -- Such a real is below the least significand of its exponent.
  have full : (2 : ℚ) ^ 52 ≤ significand := by
    exact_mod_cast normalized.full.resolve_left room
  have least : significand = 2 ^ 52 := by
    have below := (normalized.roundsTo holds).below
    rw [le_div_iff₀ unit] at below
    have small : (significand : ℚ) < 2 ^ 52 + 1 := by nlinarith
    have small : significand < 2 ^ 52 + 1 := by exact_mod_cast small
    have full := normalized.full.resolve_left room
    omega
  refine ⟨least, ?_⟩
  -- In units of the lower range, the interval reaches down by half a unit.
  have quarter : (2 : ℚ) ^ (exponent - 2) = 2 ^ exponent / 4 := by
    rw [zpow_sub₀ two_ne_zero]
    norm_num
  have half : (2 : ℚ) ^ (exponent - 1) = 2 ^ exponent / 2 := by
    rw [zpow_sub₀ two_ne_zero]
    norm_num
  have below := holds.below
  rw [normalized.ofDouble_below, if_pos ⟨least, room⟩, least] at below
  simp only [RoundingInterval.ofDouble, quarter] at below
  push_cast at below
  have halfPos : (0 : ℚ) < 2 ^ exponent / 2 := by positivity
  rw [half]
  constructor
  · rw [le_div_iff₀ halfPos]
    push_cast
    linarith
  · rw [div_le_iff₀ halfPos]
    push_cast
    linarith
  · intro _
    norm_num

/-- The reals around a double round to its word. -/
theorem roundWord_eq (normalized : IsNormalized significand exponent) (held : 0 < den)
    (holds : (RoundingInterval.ofDouble significand exponent).Holds ((num : ℚ) / den)) :
    BinaryFormat.double.roundWord num den = (exponent + 1074).toNat * 2 ^ 52 + significand := by
  -- The logarithm of the real picks the unit, which is that of the double or half of it.
  obtain ⟨positive, bounded, least, greatest, full⟩ := id normalized
  have unit : (0 : ℚ) < 2 ^ exponent := by positivity
  have rounds := normalized.roundsTo holds
  have numPos : 0 < num := by
    have one : (1 : ℚ) ≤ significand := by exact_mod_cast positive
    have ratio : (0 : ℚ) < num / den := by
      have below := rounds.below
      rw [le_div_iff₀ unit] at below
      nlinarith
    have denPos : (0 : ℚ) < den := by exact_mod_cast held
    exact_mod_cast (div_pos_iff_of_pos_right denPos).mp ratio
  obtain ⟨lower, upper⟩ := ratioLog2_spec numPos held
  -- The real has no more bits than the double.
  have bits : ratioLog2 num den < exponent + 53 := by
    rw [← zpow_lt_zpow_iff_right₀ (one_lt_two : (1 : ℚ) < 2), zpow_add₀ two_ne_zero]
    have above := rounds.above
    rw [div_le_iff₀ unit] at above
    have small : (significand : ℚ) + 1 ≤ 2 ^ 53 := by exact_mod_cast bounded
    calc (2 : ℚ) ^ ratioLog2 num den ≤ num / den := lower
      _ ≤ (significand + 1 / 2) * 2 ^ exponent := above
      _ < 2 ^ exponent * 2 ^ (53 : ℤ) := by norm_num at small ⊢; nlinarith
  rw [BinaryFormat.roundWord_double numPos]
  dsimp only
  by_cases same : exponent = -1074 ∨ 2 ^ 52 * 2 ^ exponent ≤ (num : ℚ) / den
  · -- The unit of the last place is that of the double.
    have units : max (ratioLog2 num den - 52) (-1074) = exponent := by
      rcases same with rfl | reached
      · omega
      · have reached : exponent + 52 < ratioLog2 num den + 1 := by
          rw [← zpow_lt_zpow_iff_right₀ (one_lt_two : (1 : ℚ) < 2), zpow_add₀ two_ne_zero, mul_comm]
          exact reached.trans_lt upper
        omega
    rw [units, divide_scaleRatio_eq held rounds]
    omega
  · -- The real is below a power of two, and its unit is half of that of the double.
    obtain ⟨room, short⟩ := not_or.mp same
    obtain ⟨power, rounds⟩ := normalized.roundsTo_lower room (not_le.mp short) holds
    have units : max (ratioLog2 num den - 52) (-1074) = exponent - 1 := by
      have reached : exponent - 1 + 52 < ratioLog2 num den + 1 := by
        rw [← zpow_lt_zpow_iff_right₀ (one_lt_two : (1 : ℚ) < 2), zpow_add₀ two_ne_zero]
        have half : (0 : ℚ) < 2 ^ (exponent - 1) := by positivity
        have below := rounds.below
        rw [le_div_iff₀ half] at below
        push_cast at below
        calc (2 : ℚ) ^ (exponent - 1) * 2 ^ (52 : ℤ)
            < (2 ^ 53 - 1 / 2) * 2 ^ (exponent - 1) := by norm_num; linarith
          _ ≤ num / den := below
          _ < 2 ^ (ratioLog2 num den + 1) := upper
      have short : ratioLog2 num den < exponent + 52 := by
        rw [← zpow_lt_zpow_iff_right₀ (one_lt_two : (1 : ℚ) < 2), zpow_add₀ two_ne_zero, mul_comm]
        exact lower.trans_lt (not_le.mp short)
      omega
    rw [units, divide_scaleRatio_eq held rounds]
    omega

end IsNormalized

namespace RoundingInterval

variable {interval : RoundingInterval} {num den point : ℕ} {grid : ℤ} {tie : TieRule}

/-- A number strictly between the ends lies in the interval. -/
theorem Holds.of_strict {number : ℚ} (below : interval.below * 2 ^ interval.exponent < number)
    (above : number < interval.above * 2 ^ interval.exponent) : interval.Holds number :=
  ⟨below.le, above.le, fun _ => ⟨below.ne', above.ne⟩⟩

/-- A point is compared with an end after both are brought to one scale. -/
theorem scaled_le_iff (held : 0 < den) (bound point : ℕ)
    (ratio : (num : ℚ) / den = 2 ^ interval.exponent / 10 ^ grid) :
    (bound * num ≤ point * den ↔ (bound : ℚ) * 2 ^ interval.exponent ≤ point * 10 ^ grid) ∧
      (point * den ≤ bound * num ↔ (point : ℚ) * 10 ^ grid ≤ bound * 2 ^ interval.exponent) := by
  -- Both sides are multiplied by the same positive numbers.
  have denPos : (0 : ℚ) < den := by exact_mod_cast held
  have unit : (0 : ℚ) < 10 ^ grid := by positivity
  have scaled : (num : ℚ) * 10 ^ grid = 2 ^ interval.exponent * den := by
    rwa [div_eq_div_iff denPos.ne' unit.ne'] at ratio
  rw [← Nat.cast_le (α := ℚ), ← Nat.cast_le (α := ℚ)]
  push_cast
  constructor
  · rw [← mul_le_mul_iff_left₀ unit, ← mul_le_mul_iff_left₀ denPos (b := (bound : ℚ) * _)]
    rw [mul_assoc, scaled]
    constructor <;> intro le <;> linarith
  · rw [← mul_le_mul_iff_left₀ unit, ← mul_le_mul_iff_left₀ denPos (c := (bound : ℚ) * _)]
    rw [mul_assoc (bound : ℚ), scaled]
    constructor <;> intro le <;> linarith

/-- The test for a point of a grid is whether its decimal lies in the interval. -/
theorem contains_iff (held : 0 < den)
    (ratio : (num : ℚ) / den = 2 ^ interval.exponent / 10 ^ grid) :
    interval.contains num (point * den) = true ↔ interval.Holds (point * 10 ^ grid) := by
  -- Both ends are compared, and the rest depends on whether they belong to the interval.
  obtain ⟨fromBelow, toBelow⟩ := scaled_le_iff held interval.below point ratio
  obtain ⟨fromAbove, toAbove⟩ := scaled_le_iff held interval.above point ratio
  unfold contains
  cases closed : interval.closed with
  | true =>
    rw [if_pos rfl, decide_eq_true_iff, fromBelow, toAbove]
    exact ⟨fun ⟨below, above⟩ => ⟨below, above, fun opened => by simp [closed] at opened⟩,
      fun holds => ⟨holds.below, holds.above⟩⟩
  | false =>
    rw [if_neg Bool.false_ne_true, decide_eq_true_iff, ← not_le, ← not_le, toBelow, fromAbove,
      not_le, not_le]
    refine ⟨fun ⟨below, above⟩ => .of_strict below above, fun holds => ?_⟩
    obtain ⟨notBelow, notAbove⟩ := holds.inside closed
    exact ⟨lt_of_le_of_ne holds.below notBelow.symm, lt_of_le_of_ne holds.above notAbove⟩

/-- The steps of a grid in one quarter of the unit. -/
theorem exists_scale (interval : RoundingInterval) (grid : ℤ) :
    ∃ num den : ℕ, 0 < den ∧ (num : ℚ) / den = 2 ^ interval.exponent / 10 ^ grid ∧
      scaleRatio 10 (scaleRatio 2 1 1 (-interval.exponent)).1
        (scaleRatio 2 1 1 (-interval.exponent)).2 grid = (num, den) := by
  -- The two powers are divided out one after the other.
  refine ⟨_, _, ?_, ?_, Prod.mk.eta.symm⟩
  · exact scaleRatio_den_pos (by norm_num) _ (scaleRatio_den_pos two_pos 1 one_pos _) grid
  · rw [scaleRatio_div, scaleRatio_div]
    push_cast
    rw [zpow_neg, div_one, one_div, inv_inv]

/-- What is found on a grid lies in the interval. -/
theorem nearestOnGrid?_holds {x : ScaledDecimal}
    (found : interval.nearestOnGrid? tie grid = some x) :
    interval.Holds (x.coefficient * 10 ^ x.exponent) := by
  -- One of the two neighbours was tested, whichever way the search took.
  obtain ⟨num, den, held, ratio, scale⟩ := exists_scale interval grid
  unfold nearestOnGrid? at found
  simp only [scale] at found
  generalize interval.value * num / den = lower at found
  split at found
  · rename_i both
    obtain ⟨fits, fits'⟩ := Bool.and_eq_true_iff.mp both
    split at found
    · cases found
      exact (contains_iff held ratio).mp fits
    · cases found
      exact (contains_iff held ratio).mp fits'
  · split at found
    · rename_i fits
      cases found
      exact (contains_iff held ratio).mp fits
    · split at found
      · rename_i fits
        cases found
        exact (contains_iff held ratio).mp fits
      · cases found

/-- A grid that is finer than the interval has a point in it. -/
theorem nearestOnGrid?_isSome (tie : TieRule) (inside : interval.below < interval.value)
    (inside' : interval.value < interval.above)
    (fine : 10 ^ grid < ((interval.above : ℚ) - interval.below) * 2 ^ interval.exponent) :
    (interval.nearestOnGrid? tie grid).isSome = true := by
  obtain ⟨num, den, held, ratio, scale⟩ := exists_scale interval grid
  unfold nearestOnGrid?
  simp only [scale]
  -- The value lies between two neighbouring points.
  have lower : interval.value * num / den * den ≤ interval.value * num := Nat.div_mul_le_self _ _
  have upper : interval.value * num < (interval.value * num / den + 1) * den :=
    Nat.lt_mul_of_div_lt (Nat.lt_succ_self _) held
  generalize interval.value * num / den = point at *
  -- If one of the two points fits, something is found.
  by_cases fitsBelow : interval.contains num (point * den) = true
  · simp only [fitsBelow, Bool.true_and, if_true]
    split
    · split <;> rfl
    · rfl
  by_cases fitsAbove : interval.contains num ((point + 1) * den) = true
  · simp [fitsBelow, fitsAbove]
  -- Otherwise both points lie outside, and so more than the interval apart.
  have unit : (0 : ℚ) < 2 ^ interval.exponent := by positivity
  have inside : (interval.below : ℚ) < interval.value := by exact_mod_cast inside
  have inside' : (interval.value : ℚ) < interval.above := by exact_mod_cast inside'
  rw [(scaled_le_iff held interval.value _ ratio).2] at lower
  rw [← not_le, (scaled_le_iff held interval.value _ ratio).2, not_le] at upper
  rw [contains_iff held ratio] at fitsBelow fitsAbove
  have before : (point : ℚ) * 10 ^ grid ≤ interval.below * 2 ^ interval.exponent := by
    by_contra beyond
    exact fitsBelow (.of_strict (not_le.mp beyond) (lower.trans_lt (by gcongr)))
  have behind : interval.above * 2 ^ interval.exponent ≤ ((point + 1 : ℕ) : ℚ) * 10 ^ grid := by
    by_contra beyond
    exact fitsAbove (.of_strict (lt_trans (by gcongr) upper) (not_le.mp beyond))
  push_cast at behind
  linarith

end RoundingInterval

/-- The logarithm of a ratio is not too great. -/
theorem ratioLog10_le {num den : ℕ} (above : 0 < num) (below : 0 < den) :
    (10 : ℚ) ^ ratioLog10 num den ≤ (num : ℚ) / den := by
  -- The lengths of the numerals tell the logarithms of both parts.
  have denPos : (0 : ℚ) < den := by exact_mod_cast below
  have numLower : (10 : ℚ) ^ (Nat.log 10 num : ℤ) ≤ num := by
    exact_mod_cast Nat.pow_log_le_self 10 above.ne'
  have denUpper : (den : ℚ) < 10 ^ ((Nat.log 10 den : ℤ) + 1) := by
    exact_mod_cast Nat.lt_pow_succ_log_self (by norm_num) den
  have estimate : ((Text.numeral num).length : ℤ) - (Text.numeral den).length =
      (Nat.log 10 num : ℤ) - Nat.log 10 den := by
    rw [Text.length_numeral, Text.length_numeral]
    push_cast
    ring
  have scaledHeld (exponent : ℤ) := scaleRatio_den_pos (Nat.succ_pos 9) num below exponent
  have scaled (exponent : ℤ) := scaleRatio_div 10 num den exponent
  unfold ratioLog10
  dsimp only
  rw [estimate]
  split
  · -- One less than the estimate is always reached.
    rw [le_div_iff₀ denPos]
    calc (10 : ℚ) ^ ((Nat.log 10 num : ℤ) - Nat.log 10 den - 1) * den
        ≤ 10 ^ ((Nat.log 10 num : ℤ) - Nat.log 10 den - 1) * 10 ^ ((Nat.log 10 den : ℤ) + 1) := by
          gcongr
      _ = 10 ^ (Nat.log 10 num : ℤ) := by
          rw [← zpow_add₀ (by norm_num)]
          congr 1
          ring
      _ ≤ num := numLower
  · rename_i reached
    have reached : (1 : ℚ) ≤ (scaleRatio 10 num den ((Nat.log 10 num : ℤ) - Nat.log 10 den)).1 /
        (scaleRatio 10 num den ((Nat.log 10 num : ℤ) - Nat.log 10 den)).2 := by
      rw [one_le_div (by exact_mod_cast scaledHeld _)]
      exact_mod_cast not_lt.mp reached
    rw [scaled, one_le_div (by positivity)] at reached
    exact_mod_cast reached

namespace ScaledDecimal

/-- The number of a decimal. -/
def number (x : ScaledDecimal) : ℚ :=
  x.coefficient * 10 ^ x.exponent

/-- Moving zeros to the exponent keeps the number. -/
theorem number_trimZeros (steps : ℕ) (x : ScaledDecimal) :
    (x.trimZeros steps).number = x.number := by
  -- A factor of ten moves from the coefficient to the exponent in each step.
  induction steps generalizing x with
  | zero => rfl
  | succ steps ih =>
    rw [trimZeros]
    split
    · rename_i zeros
      have whole : ((x.coefficient / 10 : ℕ) : ℚ) * 10 = x.coefficient := by
        have divides := Nat.div_mul_cancel (Nat.dvd_of_mod_eq_zero zeros.2)
        exact_mod_cast divides
      rw [ih, number, number, ← whole, zpow_add_one₀ (by norm_num)]
      ring
    · rfl

end ScaledDecimal

namespace IsNormalized

variable {significand : ℕ} {exponent top : ℤ}

/-- Steps of the seventeenth digit are finer than the interval around a double. -/
theorem seventeenth_lt (normalized : IsNormalized significand exponent)
    (reached : (10 : ℚ) ^ top ≤ significand * 2 ^ exponent) :
    let interval := RoundingInterval.ofDouble significand exponent
    (10 : ℚ) ^ (top - 16) < ((interval.above : ℚ) - interval.below) * 2 ^ interval.exponent := by
  -- The distance of the ends is compared with the step of the grid, in units of the last place.
  have unit : (0 : ℚ) < 2 ^ exponent := by positivity
  have quarter : (2 : ℚ) ^ (exponent - 2) = 2 ^ exponent / 4 := by
    rw [zpow_sub₀ two_ne_zero]
    norm_num
  have step : (10 : ℚ) ^ (top - 16) = 10 ^ top / 10 ^ 16 := by
    rw [zpow_sub₀ (by norm_num)]
    norm_num
  have small : (significand : ℚ) < 2 ^ 53 := by exact_mod_cast normalized.bounded
  dsimp only
  rw [normalized.ofDouble_below, step, div_lt_iff₀ (by positivity)]
  refine reached.trans_lt ?_
  simp only [RoundingInterval.ofDouble, quarter]
  push_cast
  -- Fifty-three bits are fewer than sixteen digits, with room for the narrow side of a power of two.
  split
  · rename_i narrow
    rw [narrow.1]
    push_cast
    nlinarith
  · nlinarith

/-- The shortest decimal of a double lies among the reals that round to it. -/
theorem shortestDecimal_holds (normalized : IsNormalized significand exponent) (tie : TieRule) :
    (RoundingInterval.ofDouble significand exponent).Holds
      (shortestDecimal tie significand exponent).number := by
  have positive := normalized.positive
  -- The search starts at the leading digit of the double.
  have ratio := scaleRatio_div 2 significand 1 (-exponent)
  have held := scaleRatio_den_pos two_pos significand one_pos (-exponent)
  rw [Nat.cast_one, div_one, zpow_neg, div_inv_eq_mul, Nat.cast_ofNat] at ratio
  unfold shortestDecimal
  dsimp only
  generalize (scaleRatio 2 significand 1 (-exponent)).1 = num,
    (scaleRatio 2 significand 1 (-exponent)).2 = den at *
  have numPos : 0 < num := by
    have denPos : (0 : ℚ) < den := by exact_mod_cast held
    have number : (0 : ℚ) < num / den := by
      rw [ratio]
      have significandPos : (0 : ℚ) < significand := by exact_mod_cast positive
      positivity
    exact_mod_cast (div_pos_iff_of_pos_right denPos).mp number
  have reached := ratio ▸ ratioLog10_le numPos held
  -- A decimal is found with seventeen digits, if not with fewer.
  have some : ((List.range 17).findSome? fun places : ℕ =>
      (RoundingInterval.ofDouble significand exponent).nearestOnGrid? tie
        (ratioLog10 num den - places)).isSome = true := by
    rw [List.findSome?_isSome_iff]
    refine ⟨16, List.mem_range.mpr (by norm_num), ?_⟩
    refine RoundingInterval.nearestOnGrid?_isSome tie ?_ ?_ (normalized.seventeenth_lt reached)
    · simp only [RoundingInterval.ofDouble]
      split <;> omega
    · simp only [RoundingInterval.ofDouble]
      omega
  obtain ⟨x, found⟩ := Option.isSome_iff_exists.mp some
  rw [found, Option.getD_some, ScaledDecimal.number_trimZeros]
  obtain ⟨places, _, found⟩ := List.exists_of_findSome?_eq_some found
  exact RoundingInterval.nearestOnGrid?_holds found

/-- Three digits are more than nine bits. -/
theorem two_zpow_lt_ten_zpow : (2 : ℚ) ^ (1075 : ℤ) < 10 ^ (399 : ℤ) :=
  calc (2 : ℚ) ^ (1075 : ℤ) ≤ 2 ^ ((9 : ℤ) * 133) := zpow_le_zpow_right₀ one_le_two (by norm_num)
    _ = (2 ^ (9 : ℤ)) ^ (133 : ℤ) := zpow_mul 2 9 133
    _ < (10 ^ (3 : ℤ)) ^ (133 : ℤ) :=
      zpow_lt_zpow_left₀ (by norm_num) (by positivity) (by norm_num)
    _ = 10 ^ (399 : ℤ) := (zpow_mul 10 3 133).symm

/-- Any real that rounds to a double is a number of usual size. -/
theorem log_bounds (normalized : IsNormalized significand exponent) {number : ℚ}
    (holds : (RoundingInterval.ofDouble significand exponent).Holds number) :
    0 < number ∧ -399 ≤ Int.log 10 number ∧ Int.log 10 number < 399 := by
  -- The reals are within half a unit of a significand that is neither zero nor too large.
  have rounds := normalized.roundsTo holds
  obtain ⟨positive, bounded, least, greatest, _⟩ := normalized
  have unit : (0 : ℚ) < 2 ^ exponent := by positivity
  have one : (1 : ℚ) ≤ significand := by exact_mod_cast positive
  have small : (significand : ℚ) + 1 ≤ 2 ^ (53 : ℤ) := by exact_mod_cast bounded
  have below := rounds.below
  have above := rounds.above
  rw [le_div_iff₀ unit] at below
  rw [div_le_iff₀ unit] at above
  have lower : ((10 : ℕ) : ℚ) ^ (-399 : ℤ) ≤ number :=
    calc ((10 : ℕ) : ℚ) ^ (-399 : ℤ) = (10 ^ (399 : ℤ))⁻¹ := by rw [zpow_neg, Nat.cast_ofNat]
      _ ≤ (2 ^ (1075 : ℤ))⁻¹ := inv_anti₀ (by positivity) two_zpow_lt_ten_zpow.le
      _ = 2 ^ (-1 : ℤ) * 2 ^ (-1074 : ℤ) :=
        (zpow_neg 2 1075).symm.trans (zpow_add₀ two_ne_zero (-1) (-1074))
      _ ≤ (significand - 1 / 2) * 2 ^ exponent :=
        mul_le_mul (by norm_num; linarith) (zpow_le_zpow_right₀ one_le_two least) (by positivity)
          (by linarith)
      _ ≤ number := below
  have upper : number < ((10 : ℕ) : ℚ) ^ (399 : ℤ) :=
    calc number ≤ (significand + 1 / 2) * 2 ^ exponent := above
      _ ≤ 2 ^ (53 : ℤ) * 2 ^ (971 : ℤ) :=
        mul_le_mul (by linarith) (zpow_le_zpow_right₀ one_le_two greatest) (by positivity)
          (by positivity)
      _ = 2 ^ (1024 : ℤ) := (zpow_add₀ two_ne_zero 53 971).symm
      _ ≤ 2 ^ (1075 : ℤ) := zpow_le_zpow_right₀ one_le_two (by norm_num)
      _ < 10 ^ (399 : ℤ) := two_zpow_lt_ten_zpow
      _ = ((10 : ℕ) : ℚ) ^ (399 : ℤ) := by rw [Nat.cast_ofNat]
  have numberPos : 0 < number := lt_of_lt_of_le (by positivity) lower
  exact ⟨numberPos, (Int.zpow_le_iff_le_log (by norm_num) numberPos).mp lower,
    (Int.lt_zpow_iff_log_lt (by norm_num) numberPos).mp upper⟩

end IsNormalized

namespace Binary64

/-- The word of a finite double holds its sign, its exponent and its significand. -/
theorem word_of_datum {x : Binary64} {negative : Bool} {significand : ℕ} {exponent : ℤ}
    (finite : x.datum = .finite negative significand exponent) :
    (significand = 0 ∧ exponent = -1074 ∨ IsNormalized significand exponent) ∧
      x.word.toNat = BinaryFormat.double.withSign negative
        ((exponent + 1074).toNat * 2 ^ 52 + significand) := by
  have weight : BinaryFormat.double.signWeight = 2 ^ 63 := by decide
  have top : BinaryFormat.double.topExponent = 2047 := by decide
  have least : BinaryFormat.double.leastExponent = -1074 := by decide
  have bits : Nat.pow 2 BinaryFormat.double.fractionBits = 2 ^ 52 := rfl
  have fields : Nat.pow 2 BinaryFormat.double.exponentBits = 2 ^ 11 := rfl
  have small : x.word.toNat < 2 ^ 64 := x.word.toNat_lt
  -- The fields of the word are taken apart by the same powers of two.
  unfold datum BinaryFormat.decode at finite
  unfold BinaryFormat.withSign
  rw [weight, top, least, bits, fields] at finite
  rw [weight]
  generalize x.word.toNat = word at *
  dsimp only at finite
  split at finite
  · split at finite <;> cases finite
  · split at finite <;> cases finite
    · -- A number with the least exponent may be zero.
      refine ⟨?_, by split <;> simp_all <;> omega⟩
      rcases Nat.eq_zero_or_pos (word % 2 ^ 52) with zero | positive
      · exact .inl ⟨zero, rfl⟩
      · exact .inr ⟨positive, by omega, by omega, by omega, .inl rfl⟩
    · refine ⟨.inr ⟨by omega, by omega, by omega, by omega, .inr (by omega)⟩, ?_⟩
      split <;> simp_all <;> omega

/-- A decimal among the reals that round to a double is read as that double. -/
theorem ofAnyDecimal_eq {x : Binary64} {negative : Bool} {significand : ℕ} {exponent : ℤ}
    (finite : x.datum = .finite negative significand exponent) (positive : 0 < significand)
    {coefficient : ℕ} {power : ℤ}
    (holds : (RoundingInterval.ofDouble significand exponent).Holds (coefficient * 10 ^ power)) :
    ofAnyDecimal negative coefficient power = x := by
  obtain ⟨fields, word⟩ := word_of_datum finite
  have normalized := fields.resolve_left fun zero => positive.ne' zero.1
  obtain ⟨numberPos, lower, upper⟩ := normalized.log_bounds holds
  have digits : 0 < coefficient := by
    rcases Nat.eq_zero_or_pos coefficient with rfl | digits
    · simp at numberPos
    · exact digits
  rw [log_decimal digits] at lower upper
  -- A decimal of usual size is rounded as the ratio that it is.
  have leading : power + ((Text.numeral coefficient).length : ℤ) =
      power + Nat.log 10 coefficient + 1 := by
    rw [Text.length_numeral]
    push_cast
    ring
  have ratio := scaleRatio_div 10 coefficient 1 (-power)
  have held := scaleRatio_den_pos (Nat.succ_pos 9) coefficient one_pos (-power)
  rw [Nat.cast_one, div_one, zpow_neg, div_inv_eq_mul, Nat.cast_ofNat] at ratio
  unfold ofAnyDecimal
  dsimp only
  rw [leading, if_neg (by omega), if_neg (by omega)]
  unfold ofDecimal ofRatio
  dsimp only
  rw [normalized.roundWord_eq held (ratio ▸ holds), ← word, UInt64.ofNat_toNat]

/-- A zero is read as the zero of its sign. -/
theorem ofAnyDecimal_zero {x : Binary64} {negative : Bool} {exponent : ℤ}
    (finite : x.datum = .finite negative 0 exponent) (power : ℤ) :
    ofAnyDecimal negative 0 power = x := by
  -- A zero has no digits to round, so its word is that of its sign alone.
  obtain ⟨fields, word⟩ := word_of_datum finite
  obtain ⟨-, rfl⟩ := fields.resolve_right fun normalized => lt_irrefl _ normalized.positive
  have zero : BinaryFormat.double.roundWord 0 1 = ((-1074 : ℤ) + 1074).toNat * 2 ^ 52 + 0 := rfl
  unfold ofAnyDecimal ofRatio
  rw [if_pos (.inl rfl), zero, ← word, UInt64.ofNat_toNat]

end Binary64

end BsonTable
