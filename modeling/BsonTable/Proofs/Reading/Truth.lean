import BsonTable.Proofs.Number.BinaryRounding
import BsonTable.Reading.Scalar

/-!
Truth values of numbers: a number is true unless it is zero, but a decimal is rounded to a double
before it is compared with zero.
-/

namespace BsonTable

/-- The magnitude up to which numbers of a type are false. -/
def TypeName.greatestFalse : TypeName → ℚ
  | .decimal => 2 ^ (-1075 : ℤ)
  | _ => 0

section Truth

variable {number : ℚ}

/-- Beyond the range of doubles on the side of zero, types do not matter. -/
theorem TypeName.greatestFalse_lt_iff (type : TypeName)
    (clear : type ≠ .decimal ∨ 2 ^ (-1075 : ℤ) < |number| ∨ number = 0) :
    type.greatestFalse < |number| ↔ number ≠ 0 := by
  -- Only for decimals is the limit another one than zero.
  unfold greatestFalse
  split
  · rcases clear with other | beyond | rfl
    · exact absurd rfl other
    · have least : (0 : ℚ) < 2 ^ (-1075 : ℤ) := by positivity
      exact iff_of_true beyond (abs_pos.mp (least.trans beyond))
    · rw [abs_zero]
      exact iff_of_false (not_lt.mpr (by positivity)) (not_not.mpr rfl)
  · exact abs_pos

/-- A 64-bit integer is zero exactly when its number is. -/
theorem bne_zero_eq (integer : Int64) :
    (integer != 0) = decide ((0 : ℚ) < |(integer.toInt : ℚ)|) := by
  -- Two truth values are equal when they are true together.
  rw [Bool.eq_iff_iff, bne_iff_ne, decide_eq_true_iff]
  exact (Int64.toInt_inj.not.symm.trans Int.cast_ne_zero.symm).trans abs_pos.symm

/-- A double is zero exactly when its number is. -/
theorem Binary64.isZero_iff {x : Binary64} (held : x.datum.number? = some number) :
    x.isZero = true ↔ number = 0 := by
  obtain ⟨negative, significand, exponent, finite, rfl⟩ := BinaryDatum.number?_eq_some held
  -- No power of two is zero, so the significand decides.
  have power : (2 : ℚ) ^ exponent ≠ 0 := zpow_ne_zero _ two_ne_zero
  rw [signed_eq_zero_iff, mul_eq_zero_iff_right power, Nat.cast_eq_zero]
  unfold Binary64.isZero
  rw [finite]
  exact beq_iff_eq

/-- The double of a decimal is zero up to half of the least double. -/
theorem Decimal128.isZero_toBinary64_iff {x : Decimal128} (held : x.datum.number? = some number) :
    x.toBinary64.isZero = true ↔ |number| ≤ 2 ^ (-1075 : ℤ) := by
  obtain ⟨negative, coefficient, exponent, finite, rfl⟩ := DecimalDatum.number?_eq_some held
  obtain ⟨num, den, ratio, positive, value⟩ := Decimal128.toBinary64_eq finite
  -- The double is that of the ratio with the same magnitude.
  rw [ratio, Binary64.isZero_ofRatio_iff negative positive, value,
    abs_signed negative (by positivity)]

/-- A number is true when it is beyond what is false in its type. -/
theorem Value.truth?_eq {value : Value} (held : value.number? = some number) :
    value.truth? = some (decide (value.typeName.greatestFalse < |number|)) := by
  -- Two truth values are compared by when they are true.
  cases value with
  | int n =>
    cases held
    refine congrArg some (Bool.eq_iff_iff.mpr ?_)
    rw [bne_iff_ne, decide_eq_true_iff]
    exact (Int32.toInt_inj.not.symm.trans Int.cast_ne_zero.symm).trans abs_pos.symm
  | long n =>
    cases held
    exact congrArg some (bne_zero_eq n)
  | date millis =>
    cases held
    exact congrArg some (bne_zero_eq millis)
  | double x =>
    refine congrArg some (Bool.eq_iff_iff.mpr ?_)
    rw [Bool.not_eq_true', ← Bool.not_eq_true, Binary64.isZero_iff held, decide_eq_true_iff]
    exact abs_pos.symm
  | decimal x =>
    refine congrArg some (Bool.eq_iff_iff.mpr ?_)
    rw [Bool.not_eq_true', ← Bool.not_eq_true, Decimal128.isZero_toBinary64_iff held,
      decide_eq_true_iff]
    exact not_le
  | _ => cases held

/-- A number is read as its truth value in both modes. -/
theorem Value.readBoolean_eq {value : Value} (held : value.number? = some number)
    (mode : ConversionMode) :
    value.readBoolean mode = .ok (decide (value.typeName.greatestFalse < |number|)) := by
  -- What has a number is neither null nor undefined.
  have present : ¬ value.isNullLike = true := by
    rw [Value.isNullLike_iff]
    rintro (rfl | rfl) <;> cases held
  unfold Value.readBoolean
  rw [if_neg present, Value.truth?_eq held]
  rfl

/--
Numbers are true unless they are zero, but for decimals up to half of the least double, which are
false. Equal numbers of one type read alike, and so do those of different types beyond that.
-/
theorem Value.readBoolean_unless_tiny {value : Value} (held : value.number? = some number)
    (mode : ConversionMode) :
    value.readBoolean mode = .ok (decide (value.typeName.greatestFalse < |number|)) ∧
      (value.typeName ≠ .decimal ∨ 2 ^ (-1075 : ℤ) < |number| ∨ number = 0 →
        value.readBoolean mode = .ok (decide (number ≠ 0))) ∧
      ∀ (other : Value) (otherMode : ConversionMode), other.number? = some number →
        other.typeName = value.typeName ∨ 2 ^ (-1075 : ℤ) < |number| ∨ number = 0 →
          other.readBoolean otherMode = value.readBoolean mode := by
  -- All three parts compare one reading with the limit of its type.
  refine ⟨Value.readBoolean_eq held mode, ?_, ?_⟩
  · intro clear
    rw [Value.readBoolean_eq held]
    exact congrArg Except.ok (decide_eq_decide.mpr (TypeName.greatestFalse_lt_iff _ clear))
  · intro other otherMode heldOther alike
    rw [Value.readBoolean_eq held, Value.readBoolean_eq heldOther]
    rcases alike with same | clear
    · rw [same]
    · -- Both types agree with the comparison with zero.
      refine congrArg Except.ok (decide_eq_decide.mpr ?_)
      rw [TypeName.greatestFalse_lt_iff _ (Or.inr clear),
        TypeName.greatestFalse_lt_iff _ (Or.inr clear)]

/-- Ten tenths and one are true together, in either mode. -/
theorem Value.readBoolean_same_cohort :
    (Value.decimal (.ofFields false 10 (-1))).readBoolean .strict =
      (Value.int 1).readBoolean .relaxed := by
  -- Both values have the number one, which is far beyond every limit.
  have one : (Value.int 1).number? = some 1 := by decide +kernel
  have tenths : (Value.decimal (.ofFields false 10 (-1))).number? = some 1 := by decide +kernel
  refine (Value.readBoolean_unless_tiny one .relaxed).2.2 _ .strict tenths (Or.inr (Or.inl ?_))
  rw [abs_one]
  exact zpow_lt_one_of_neg₀ one_lt_two (by norm_num)

/-- A decimal that is smaller than every double is not zero, and false. -/
theorem Value.readBoolean_tiny_false :
    (Value.decimal (.ofFields false 1 (-400))).number? = some (1 / 10 ^ 400) ∧
      (1 / 10 ^ 400 : ℚ) ≠ 0 ∧
      (Value.decimal (.ofFields false 1 (-400))).readBoolean .strict = .ok false := by
  decide +kernel

end Truth

end BsonTable
