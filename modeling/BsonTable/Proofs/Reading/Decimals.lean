import BsonTable.Proofs.Number.FixedPoint
import BsonTable.Reading.Scalar

/-!
Decimals read as fixed-point decimals: whatever fixed point holds reads as itself in every spelling,
but for zeros that are written with a great exponent.
-/

namespace BsonTable

/-- What is made of a reading is made of the zero of a misfit too. -/
theorem Value.fitOr_map {α β : Type} (mode : ConversionMode) (value : Value) (target : String)
    (zero : α) (reading : Option α) (f : α → β) :
    (fitOr mode value target zero reading).map f =
      fitOr mode value target (f zero) (reading.map f) := by
  -- With a reading both are what is made of it; without one the mode decides for both alike.
  cases reading with
  | some reading => rfl
  | none => cases mode <;> rfl

section Reading

variable [DecimalLibrary]
variable {x : Decimal128} {negative : Bool} {coefficient : ℕ} {exponent : ℤ} {number : ℚ}

/-- A decimal fits when fixed point holds it. -/
theorem readDecimal_eq (x : Decimal128) (mode : ConversionMode) :
    (Value.decimal x).readDecimal mode =
      Value.fitOr mode (.decimal x) "decimal" .zero x.toFixed? := rfl

/-- The number that a decimal reads as is that of its fixed-point decimal, or zero for a misfit. -/
theorem readDecimal_number (x : Decimal128) (mode : ConversionMode) :
    ((Value.decimal x).readDecimal mode).map Fixed96.number =
      Value.fitOr mode (.decimal x) "decimal" 0 (x.toFixed?.map Fixed96.number) := by
  -- The zero that stands for a misfit has the number zero.
  have zero : Fixed96.zero.number = 0 := by
    unfold Fixed96.number
    exact (signed_eq_zero_iff _ _).mpr (zero_div _)
  rw [readDecimal_eq, Value.fitOr_map, zero]

variable [LawfulDecimalLibrary]

/-- Whatever fixed point holds and is not zero reads as itself. -/
theorem readDecimal_of_held (held : x.datum.number? = some number) (nonzero : number ≠ 0)
    {fixed : Fixed96} (same : fixed.number = number) (mode : ConversionMode) :
    ((Value.decimal x).readDecimal mode).map Fixed96.number = .ok number := by
  -- The decimal that holds the number shows that its magnitude is held.
  have magnitude : Fixed96.IsHeld |number| := same ▸ fixed.isHeld_number
  rw [readDecimal_number, Decimal128.toFixed?_eq held nonzero,
    Fixed96.near?_of_isHeld (abs_pos.mpr nonzero) magnitude, Option.map_some, signed_abs]
  rfl

/-- Decimals of one number that is not zero read alike. -/
theorem readDecimal_congr {y : Decimal128} (held : x.datum.number? = some number)
    (heldOther : y.datum.number? = some number) (nonzero : number ≠ 0) (mode : ConversionMode) :
    ((Value.decimal y).readDecimal mode).map Fixed96.number =
      ((Value.decimal x).readDecimal mode).map Fixed96.number := by
  -- Each of the two reads as a function of the same number.
  rw [readDecimal_number, readDecimal_number, Decimal128.toFixed?_eq heldOther nonzero,
    Decimal128.toFixed?_eq held nonzero]
  rfl

/-- A zero with a small exponent reads as zero. -/
theorem readDecimal_near_zero (finite : x.datum = .finite negative 0 exponent)
    (near : exponent.natAbs ≤ 28) (mode : ConversionMode) :
    ((Value.decimal x).readDecimal mode).map Fixed96.number = .ok 0 := by
  rw [readDecimal_number, Decimal128.toFixed?_of_zero finite, if_pos near]
  rfl

/-- A zero with a great exponent is a misfit. -/
theorem readDecimal_far_zero (finite : x.datum = .finite negative 0 exponent)
    (far : 28 < exponent.natAbs) (mode : ConversionMode) :
    (Value.decimal x).readDecimal mode = (Value.decimal x).misfit mode "decimal" .zero := by
  -- The number of the reading is missing, so there is no reading either.
  have missing := Decimal128.toFixed?_of_zero finite
  rw [if_neg (by omega), Option.map_eq_none_iff] at missing
  rw [readDecimal_eq, missing]
  rfl

end Reading

end BsonTable
