import BsonTable.Proofs.Number.BinaryRounding
import BsonTable.Proofs.Number.FixedPoint
import BsonTable.Reading.Scalar

/-!
Decimals read as integers.

A decimal that fixed point holds is rounded there before its decimal places are cut off, and is
refused if no 64-bit integer is left. Others are cut off as doubles are.
-/

namespace BsonTable

open Fixed96 (HoldsPlaces placesOf near? wholePart Carries)

/-- The 64-bit integer of an integer, if there is one. -/
def int64? (value : ℤ) : Option Int64 :=
  if -2 ^ 63 ≤ value ∧ value < 2 ^ 63 then some (Int64.ofInt value) else none

/-- The integer that is left of a number when its magnitude is rounded to the places held. -/
def rounded (number : ℚ) : ℤ :=
  -- The rounded magnitude keeps the sign, also where rounding reached the next integer.
  withSignOf number (wholePart |number|)

/-- A value reads as an integer, reduced to the bits of the target. -/
structure ReadsInteger [DecimalLibrary] (mode : ConversionMode) (value : Value) (integer : ℤ) :
    Prop where
  long : value.readLong mode = .ok (Int64.ofInt integer)
  int : value.readInt mode = .ok (Int32.ofInt integer)
  short : value.readShort mode = .ok (Int16.ofInt integer)
  byte : value.readByte mode = .ok (Int8.ofInt integer)

/-- A value is a misfit for integers of every width. -/
structure ReadsNoInteger [DecimalLibrary] (mode : ConversionMode) (value : Value) : Prop where
  long : value.readLong mode = value.misfit mode "long" 0
  int : value.readInt mode = value.misfit mode "int" 0
  short : value.readShort mode = value.misfit mode "short" 0
  byte : value.readByte mode = value.misfit mode "byte" 0

/-- Whether a number is beyond the 64-bit integers, and yet held in fixed point. -/
def InGap (number : ℚ) : Prop :=
  -- On the negative side the gap starts one integer later, as there is one integer more.
  (2 ^ 63 - 1 / (2 * 10 ^ 9) ≤ number ∧ number < 2 ^ 96 - 1 / 2) ∨
    (-(2 ^ 96 - 1 / 2) < number ∧ number ≤ -(2 ^ 63 + 1 - 1 / (2 * 10 ^ 9)))

instance (number : ℚ) : Decidable (InGap number) :=
  inferInstanceAs (Decidable (_ ∨ _))

section Decimals

variable {x : Decimal128} {negative : Bool} {coefficient : ℕ} {exponent : ℤ}

/-- Fixed point gives the integer part of its number, if it is a 64-bit integer. -/
theorem Fixed96.toInt64?_eq (fixed : Fixed96) :
    fixed.toInt64? = int64? (truncated fixed.number) := by
  -- Cutting off is taken as a lemma; the range of the word is the same on both sides.
  unfold Fixed96.toInt64? int64?
  rw [Fixed96.truncate_eq]
  simp only [Nat.pow_eq, Nat.cast_pow, Nat.cast_ofNat]

variable [DecimalLibrary]

/-- A decimal that fixed point holds reads as the integer part that it has there. -/
theorem Decimal128.toInt64?_of_some {fixed : Fixed96}
    (made : x.toFixed? = some fixed) :
    x.toInt64? = int64? (truncated fixed.number) := by
  unfold Decimal128.toInt64?
  rw [made]
  exact fixed.toInt64?_eq

/-- A decimal that fixed point does not hold is cut off as a double is. -/
theorem Decimal128.toInt64?_of_none (missing : x.toFixed? = none)
    (finite : x.datum = .finite negative coefficient exponent) :
    x.toInt64? = some x.toBinary64.toInt64 := by
  -- A finite decimal is a double that is no missing number, so it has an integer part.
  obtain ⟨num, den, ratio, -, -⟩ := Decimal128.toBinary64_eq finite
  unfold Decimal128.toInt64?
  rw [missing]
  dsimp only
  rw [ratio, Binary64.isNaN_ofRatio]
  rfl

/-- If it is too small for fixed point, it reads as zero. -/
theorem Decimal128.toInt64?_of_tiny (missing : x.toFixed? = none)
    (finite : x.datum = .finite negative coefficient exponent)
    (tiny : (coefficient : ℚ) * 10 ^ exponent < 10 ^ (-6 : ℤ)) : x.toInt64? = some 0 := by
  -- The double is that of the same ratio, which is below one half.
  obtain ⟨num, den, ratio, held, value⟩ := Decimal128.toBinary64_eq finite
  have half : (num : ℚ) / den < 1 / 2 := by
    rw [value]
    norm_num at tiny
    linarith
  rw [Decimal128.toInt64?_of_none missing finite, ratio,
    Binary64.toInt64_ofRatio_of_lt negative held half]

/-- If it is too great, it reads as the bound of its sign. -/
theorem Decimal128.toInt64?_of_great (missing : x.toFixed? = none)
    (finite : x.datum = .finite negative coefficient exponent)
    (great : 2 ^ 63 ≤ (coefficient : ℚ) * 10 ^ exponent) :
    x.toInt64? = some (if negative then Int64.minValue else Int64.maxValue) := by
  -- Here the ratio is beyond the bounds, and so is its double.
  obtain ⟨num, den, ratio, held, value⟩ := Decimal128.toBinary64_eq finite
  rw [Decimal128.toInt64?_of_none missing finite, ratio,
    Binary64.toInt64_ofRatio_of_le negative held (by rwa [value])]

variable [LawfulDecimalLibrary]

/-- A zero of any exponent reads as zero. -/
theorem Decimal128.toInt64?_of_zero (finite : x.datum = .finite negative 0 exponent) :
    x.toInt64? = some 0 := by
  -- Whether the zero is made at all depends on its exponent, but both ways lead to zero.
  cases made : x.toFixed? with
  | none =>
    apply Decimal128.toInt64?_of_tiny made finite
    rw [Nat.cast_zero, zero_mul]
    positivity
  | some fixed =>
    have number := Decimal128.toFixed?_of_zero finite
    rw [made, Option.map_some] at number
    have zero : fixed.number = 0 := by
      split at number
      · exact Option.some.inj number
      · cases number
    rw [Decimal128.toInt64?_of_some made, zero, truncated_zero]
    rfl

/-- A decimal that is not zero reads as the integer that is left of it, or at a bound. -/
theorem Decimal128.toInt64?_of_pos (finite : x.datum = .finite negative coefficient exponent)
    (positive : 0 < coefficient) :
    let magnitude : ℚ := coefficient * 10 ^ exponent
    x.toInt64? =
      if HoldsPlaces magnitude 0 then int64? (signed negative (wholePart magnitude : ℤ))
      else some (Binary64.clampToInt64 (signed negative (wholePart magnitude : ℤ))) := by
  intro magnitude
  -- The two ways through fixed point and through a double meet in the rounded magnitude.
  have above : 0 < magnitude := by positivity
  have number := Decimal128.toFixed?_of_pos finite positive
  cases made : x.toFixed? with
  | some fixed =>
    rw [made, Option.map_some] at number
    obtain ⟨read, near, sign⟩ := Option.map_eq_some_iff.mp number.symm
    have holds : HoldsPlaces magnitude 0 := by
      by_contra crowded
      have none := (Fixed96.near?_eq_none_iff above).mpr (Or.inl crowded)
      rw [none] at near
      cases near
    rw [Decimal128.toInt64?_of_some made, if_pos holds, ← sign,
      truncated_signed negative (Fixed96.near?_nonneg near), Fixed96.floor_near? above near]
  | none =>
    rw [made, Option.map_none] at number
    have none : near? magnitude = none := Option.map_eq_none_iff.mp number.symm
    by_cases holds : HoldsPlaces magnitude 0
    · -- Only a number that is too small is held and yet not made.
      have small : magnitude < 10 ^ (-28 : ℤ) :=
        ((Fixed96.near?_eq_none_iff above).mp none).resolve_left (not_not.mpr holds)
      have tiny : magnitude < 10 ^ (-6 : ℤ) :=
        small.trans (zpow_lt_zpow_right₀ (by norm_num) (by norm_num))
      rw [Decimal128.toInt64?_of_tiny made finite tiny, if_pos holds,
        Fixed96.wholePart_of_tiny tiny]
      cases negative <;> rfl
    · -- What is too great for fixed point is beyond the 64-bit integers in any case.
      have great : (2 : ℚ) ^ 63 ≤ magnitude := by
        unfold HoldsPlaces at holds
        norm_num at holds ⊢
        linarith
      have whole : 2 ^ 63 ≤ wholePart magnitude :=
        (Nat.le_floor (by exact_mod_cast great)).trans (Fixed96.floor_le_wholePart magnitude)
      rw [Decimal128.toInt64?_of_great made finite great, if_neg holds,
        Binary64.clampToInt64_signed negative whole]

/-- What a decimal reads as is a function of its number. -/
theorem Decimal128.toInt64?_eq {number : ℚ} (held : x.datum.number? = some number) :
    x.toInt64? =
      if HoldsPlaces |number| 0 then int64? (rounded number)
      else some (Binary64.clampToInt64 (rounded number)) := by
  obtain ⟨negative, coefficient, exponent, finite, rfl⟩ := DecimalDatum.number?_eq_some held
  rw [rounded, abs_signed negative (by positivity)]
  -- A zero has no leading digit, so its text is not that of a magnitude.
  rcases Nat.eq_zero_or_pos coefficient with rfl | positive
  · have none : wholePart 0 = 0 := Fixed96.wholePart_of_tiny (by positivity)
    have holds : HoldsPlaces 0 0 := Fixed96.holdsPlaces_of_tiny (by positivity)
    rw [Decimal128.toInt64?_of_zero finite, Nat.cast_zero, zero_mul, if_pos holds, none,
      withSignOf_zero]
    rfl
  · rw [Decimal128.toInt64?_of_pos finite positive, withSignOf_signed negative (by positivity)]

end Decimals

section Rounded

variable {number : ℚ}

/-- Greater numbers round to greater integers. -/
theorem rounded_mono {smaller : ℚ} (le : smaller ≤ number) : rounded smaller ≤ rounded number := by
  unfold rounded withSignOf signed
  -- The signs of the two numbers decide whether and how their magnitudes compare.
  by_cases below : number < 0
  · have both : smaller < 0 := le.trans_lt below
    -- Among negative numbers the magnitudes are ordered the other way round.
    have whole : wholePart |number| ≤ wholePart |smaller| := by
      apply Fixed96.wholePart_mono
      rw [abs_of_neg below, abs_of_neg both]
      exact neg_le_neg le
    simp only [decide_eq_true both, decide_eq_true below, if_true]
    omega
  · by_cases apart : smaller < 0
    · -- A negative number never rounds to more than one that is not.
      simp only [decide_eq_true apart, decide_eq_false below, if_true, Bool.false_eq_true, if_false]
      omega
    · have whole : wholePart |smaller| ≤ wholePart |number| := by
        apply Fixed96.wholePart_mono
        rwa [abs_of_nonneg (not_lt.mp apart), abs_of_nonneg (not_lt.mp below)]
      simp only [decide_eq_false apart, decide_eq_false below, Bool.false_eq_true, if_false]
      omega

/-- Near the greatest 64-bit integer, nine places are held. -/
theorem le_wholePart_iff_of_bound {magnitude : ℚ} {bound : ℕ} (least : 2 ^ 63 ≤ bound)
    (greatest : bound ≤ 2 ^ 63 + 1) (positive : 0 ≤ magnitude) :
    bound ≤ wholePart magnitude ↔ (bound : ℚ) - 1 / (2 * 10 ^ 9) ≤ magnitude := by
  -- Next to the bounds nine places are held and ten are not, which fixes the half unit.
  have lower : (2 ^ 63 : ℚ) ≤ bound := by exact_mod_cast least
  have upper : (bound : ℚ) ≤ 2 ^ 63 + 1 := by exact_mod_cast greatest
  apply Fixed96.le_wholePart_iff (by norm_num) _ _ positive
  · unfold HoldsPlaces
    norm_num
    linarith
  · intro _
    unfold HoldsPlaces
    norm_num
    linarith

/-- The gap is where a number is held in fixed point, and no 64-bit integer is left of it. -/
theorem inGap_iff :
    InGap number ↔
      HoldsPlaces |number| 0 ∧ ¬ (-2 ^ 63 ≤ rounded number ∧ rounded number < 2 ^ 63) := by
  -- Being held and reaching the bounds are both comparisons of the magnitude.
  have holds : HoldsPlaces |number| 0 ↔ |number| < 2 ^ 96 - 1 / 2 := by
    unfold HoldsPlaces
    rw [pow_zero, mul_one, lt_sub_iff_add_lt]
  have upper : 2 ^ 63 ≤ wholePart |number| ↔ 2 ^ 63 - 1 / (2 * 10 ^ 9) ≤ |number| := by
    rw [le_wholePart_iff_of_bound le_rfl (by norm_num) (abs_nonneg number)]
    norm_num
  have lower : 2 ^ 63 + 1 ≤ wholePart |number| ↔ 2 ^ 63 + 1 - 1 / (2 * 10 ^ 9) ≤ |number| := by
    rw [le_wholePart_iff_of_bound (by norm_num) le_rfl (abs_nonneg number)]
    norm_num
  rw [holds]
  unfold InGap rounded withSignOf signed
  -- There is one negative integer more, so the bounds of the two sides are not the same.
  by_cases below : number < 0
  · rw [abs_of_neg below] at upper lower ⊢
    simp only [decide_eq_true below, if_true]
    have outside : ¬ (-2 ^ 63 ≤ -(wholePart (-number) : ℤ) ∧ -(wholePart (-number) : ℤ) < 2 ^ 63) ↔
        2 ^ 63 + 1 ≤ wholePart (-number) := by omega
    rw [outside, lower]
    constructor
    · rintro (⟨least, -⟩ | ⟨greater, most⟩)
      · norm_num at least
        linarith
      · constructor <;> linarith
    · rintro ⟨less, least⟩
      right
      constructor <;> linarith
  · rw [abs_of_nonneg (not_lt.mp below)] at upper lower ⊢
    simp only [decide_eq_false below, Bool.false_eq_true, if_false]
    have outside : ¬ (-2 ^ 63 ≤ (wholePart number : ℤ) ∧ (wholePart number : ℤ) < 2 ^ 63) ↔
        2 ^ 63 ≤ wholePart number := by omega
    rw [outside, upper]
    constructor
    · rintro (⟨least, less⟩ | ⟨-, most⟩)
      · exact ⟨less, least⟩
      · norm_num at most
        linarith
    · rintro ⟨less, least⟩
      exact Or.inl ⟨least, less⟩

/-- A number whose integer part is a 64-bit integer is held with nine places. -/
theorem holdsPlaces_of_fits (fits : -2 ^ 63 ≤ truncated number ∧ truncated number < 2 ^ 63) :
    HoldsPlaces |number| 9 := by
  -- The integer part of the least 64-bit integer is the greatest.
  have whole : ⌊|number|⌋₊ < 2 ^ 63 + 1 := by
    unfold truncated withSignOf signed at fits
    split at fits <;> omega
  have bound : |number| < 2 ^ 63 + 1 := by
    have less := (Nat.floor_lt (abs_nonneg number)).mp whole
    exact_mod_cast less
  unfold HoldsPlaces
  norm_num at bound ⊢
  linarith

end Rounded

section Reading

variable [DecimalLibrary]
variable {x : Decimal128} {number : ℚ} {value : Value} {mode : ConversionMode}

/-- What reads as a 64-bit integer reads as its low bits. -/
theorem ReadsInteger.of_long {integer : ℤ}
    (long : value.readLong mode = .ok (Int64.ofInt integer)) : ReadsInteger mode value integer where
  long := long
  -- The low bits of the word are those of the integer itself.
  int := by rw [Value.readInt, Value.readLowBits, long, ← Int64.toInt32_ofInt]; rfl
  short := by rw [Value.readShort, Value.readLowBits, long, ← Int64.toInt16_ofInt]; rfl
  byte := by rw [Value.readByte, Value.readLowBits, long, ← Int64.toInt8_ofInt]; rfl

/-- What is no 64-bit integer is no narrower one. -/
theorem ReadsNoInteger.of_long (long : value.readLong mode = value.misfit mode "long" 0) :
    ReadsNoInteger mode value where
  long := long
  -- A narrower target only changes the name in the failure.
  int := by rw [Value.readInt, Value.readLowBits, long]; cases mode <;> rfl
  short := by rw [Value.readShort, Value.readLowBits, long]; cases mode <;> rfl
  byte := by rw [Value.readByte, Value.readLowBits, long]; cases mode <;> rfl

variable [LawfulDecimalLibrary]

/-- A decimal reads as its rounded integer up to the bounds, unless it is in the gap. -/
theorem readLong_decimal (held : x.datum.number? = some number) (mode : ConversionMode) :
    (Value.decimal x).readLong mode =
      if InGap number then (Value.decimal x).misfit mode "long" 0
      else .ok (Binary64.clampToInt64 (rounded number)) := by
  have integer : (Value.decimal x).integer? =
      if InGap number then none else some (Binary64.clampToInt64 (rounded number)) := by
    rw [Value.integer?, Decimal128.toInt64?_eq held, int64?]
    -- What fixed point holds is clamped only where there is nothing to clamp.
    by_cases holds : HoldsPlaces |number| 0
    · by_cases fits : -2 ^ 63 ≤ rounded number ∧ rounded number < 2 ^ 63
      · rw [if_pos holds, if_pos fits, if_neg fun gap => (inGap_iff.mp gap).2 fits,
          Binary64.clampToInt64_of_fits fits]
      · rw [if_pos holds, if_neg fits, if_pos (inGap_iff.mpr ⟨holds, fits⟩)]
    · rw [if_neg holds, if_neg fun gap => holds (inGap_iff.mp gap).1]
  have present : ¬ (Value.decimal x).isNullLike = true := Bool.false_ne_true
  -- A decimal is never missing, so the mode is asked only in the gap.
  unfold Value.readLong
  rw [if_neg present, integer]
  split <;> rfl

/-- A decimal reads as its rounded integer, if that is a 64-bit integer. -/
theorem readsInteger_of_rounded (held : x.datum.number? = some number) {integer : ℤ}
    (same : rounded number = integer) (fits : -2 ^ 63 ≤ integer ∧ integer < 2 ^ 63)
    (mode : ConversionMode) : ReadsInteger mode (.decimal x) integer := by
  -- The long reading is enough, as the others take its bits.
  apply ReadsInteger.of_long
  rw [readLong_decimal held, if_neg fun gap => (inGap_iff.mp gap).2 (by rwa [same]), same,
    Binary64.clampToInt64_of_fits fits]

end Reading

section Bounds

variable {x : Decimal128} {number : ℚ}

/-- The bound of the 64-bit integers that a number beyond them is nearer to. -/
def nearerBound (number : ℚ) : Int64 :=
  if number < 0 then Int64.minValue else Int64.maxValue

/-- An integer beyond the 64-bit ones is clamped to the bound on its side. -/
theorem clampToInt64_withSignOf {part : ℕ} (beyond : 2 ^ 63 ≤ part) :
    Binary64.clampToInt64 (withSignOf number part) = nearerBound number := by
  rw [withSignOf, Binary64.clampToInt64_signed _ beyond, nearerBound]
  simp only [decide_eq_true_eq]

/-- Clamping keeps the order. -/
theorem clampToInt64_mono {smaller greater : ℤ} (le : smaller ≤ greater) :
    Binary64.clampToInt64 smaller ≤ Binary64.clampToInt64 greater := by
  rw [Int64.le_iff_toInt_le, Binary64.toInt_clampToInt64, Binary64.toInt_clampToInt64]
  omega

variable [DecimalLibrary]

/-- A double beyond the 64-bit integers reads as the nearer bound. -/
theorem readLong_double_of_le {x : Binary64} (held : x.datum.number? = some number)
    (beyond : 2 ^ 63 ≤ |number|) (mode : ConversionMode) :
    (Value.double x).readLong mode = .ok (nearerBound number) := by
  -- The magnitude has an integer part beyond the bounds, which the sign then decides.
  have whole : 2 ^ 63 ≤ ⌊|number|⌋₊ := Nat.le_floor (by exact_mod_cast beyond)
  obtain ⟨negative, significand, exponent, finite, rfl⟩ := BinaryDatum.number?_eq_some held
  have integer : x.toInt64 = nearerBound (signed negative ((significand : ℚ) * 2 ^ exponent)) := by
    rw [Binary64.toInt64_of_finite finite, ← truncated_signed negative (by positivity), truncated,
      clampToInt64_withSignOf whole]
  rw [← integer]
  rfl

variable [LawfulDecimalLibrary]

/-- A decimal beyond everything that fixed point holds reads as the nearer bound. -/
theorem readLong_decimal_of_le (held : x.datum.number? = some number)
    (beyond : 2 ^ 96 - 1 / 2 ≤ |number|) (mode : ConversionMode) :
    (Value.decimal x).readLong mode = .ok (nearerBound number) := by
  -- What is not held is not in the gap, and what is clamped is at the bound of its sign.
  have crowded : ¬ HoldsPlaces |number| 0 := by
    unfold HoldsPlaces
    rw [pow_zero, mul_one]
    linarith
  have whole : 2 ^ 63 ≤ wholePart |number| := by
    refine le_trans (Nat.le_floor ?_) (Fixed96.floor_le_wholePart |number|)
    norm_num at beyond ⊢
    linarith
  rw [readLong_decimal held, if_neg fun gap => crowded (inGap_iff.mp gap).1, rounded,
    clampToInt64_withSignOf whole]

end Bounds

end BsonTable
