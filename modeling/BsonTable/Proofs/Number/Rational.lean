import BsonTable.Bson.Value
import BsonTable.Number.Fixed96
import Mathlib.Algebra.Order.Field.Power
import Mathlib.Algebra.Order.Floor.Semifield
import Mathlib.Data.Int.Log
import Mathlib.Data.Rat.Floor
import Mathlib.Tactic.Linarith
import Mathlib.Tactic.NormNum
import Mathlib.Tactic.Positivity
import Mathlib.Tactic.Ring

/-! The rational numbers that words, fixed-point decimals and stored values stand for. -/

namespace BsonTable

/-- A magnitude with a sign. -/
def signed {α : Type u} [Neg α] (negative : Bool) (magnitude : α) : α :=
  -- The sign is a field of its own, as it is in the stored formats; of zero it leaves nothing.
  if negative then -magnitude else magnitude

section Signed

/-- A sign does not change a magnitude. -/
theorem abs_signed (negative : Bool) {magnitude : ℚ} (atLeast : 0 ≤ magnitude) :
    |signed negative magnitude| = magnitude := by
  -- With a minus sign the absolute value takes it off again, without one it has nothing to do.
  unfold signed
  split
  · rw [abs_neg, abs_of_nonneg atLeast]
  · exact abs_of_nonneg atLeast

/-- Only zero is zero, whatever the sign. -/
theorem signed_eq_zero_iff (negative : Bool) (magnitude : ℚ) :
    signed negative magnitude = 0 ↔ magnitude = 0 := by
  unfold signed
  split
  · exact neg_eq_zero
  · exact Iff.rfl

end Signed

/-- The number of a binary datum, unless it stands for none. -/
def BinaryDatum.number? : BinaryDatum → Option ℚ
  | .finite negative significand exponent => some (signed negative (significand * 2 ^ exponent))
  | _ => none

/-- The number of a decimal datum, unless it stands for none. -/
def DecimalDatum.number? : DecimalDatum → Option ℚ
  | .finite negative coefficient exponent => some (signed negative (coefficient * 10 ^ exponent))
  -- Infinities and what is no number at all have none.
  | _ => none

/-- The number of a fixed-point decimal. -/
def Fixed96.number (x : Fixed96) : ℚ :=
  signed x.negative (x.mantissa / 10 ^ x.scale)

/-- The number that a stored value stands for: a finite one, or the milliseconds of a date. -/
def Value.number? : Value → Option ℚ
  | .int n => some n.toInt
  | .long n => some n.toInt
  | .date millis => some millis.toInt
  -- A double and a decimal may be no number, and then the value stands for none either.
  | .double x => x.datum.number?
  | .decimal x => x.datum.number?
  | _ => none

/-- The integer with the sign of a number and a magnitude of its own. -/
def withSignOf (number : ℚ) (magnitude : ℕ) : ℤ :=
  signed (decide (number < 0)) magnitude

/-- The integer part of a number, toward zero. -/
def truncated (number : ℚ) : ℤ :=
  withSignOf number ⌊|number|⌋₊

section Sign

/-- A positive magnitude shows the sign that it has. -/
theorem decide_signed_lt (negative : Bool) {magnitude : ℚ} (positive : 0 < magnitude) :
    decide (signed negative magnitude < 0) = negative := by
  -- Without a sign the number is above zero, with one it is below.
  cases negative
  · exact decide_eq_false (not_lt.mpr positive.le)
  · exact decide_eq_true (neg_lt_zero.mpr positive)

/-- A number is its magnitude with its sign. -/
theorem signed_abs (number : ℚ) : signed (decide (number < 0)) |number| = number := by
  unfold signed
  by_cases below : number < 0
  · rw [if_pos (decide_eq_true below), abs_of_neg below, neg_neg]
  · rw [if_neg (by simpa using below), abs_of_nonneg (not_lt.mp below)]

/-- A part of a positive magnitude has the same sign. -/
theorem withSignOf_signed (negative : Bool) {magnitude : ℚ} (positive : 0 < magnitude) (part : ℕ) :
    withSignOf (signed negative magnitude) part = signed negative (part : ℤ) := by
  -- The sign is read off the number, which shows it as the magnitude is not zero.
  rw [withSignOf, decide_signed_lt negative positive]

/-- Zero has no sign. -/
theorem withSignOf_zero (number : ℚ) : withSignOf number 0 = 0 := by
  -- Both signs lead to zero, as minus zero is zero among the integers.
  unfold withSignOf signed
  split <;> rfl

/-- The integer part of a number is that of its magnitude, with the sign. -/
theorem truncated_signed (negative : Bool) {magnitude : ℚ} (atLeast : 0 ≤ magnitude) :
    truncated (signed negative magnitude) = signed negative (⌊magnitude⌋₊ : ℤ) := by
  unfold truncated
  rw [abs_signed negative atLeast]
  -- Zero shows no sign, but neither does its integer part.
  rcases atLeast.eq_or_lt with rfl | positive
  · rw [Nat.floor_zero, withSignOf_zero]
    cases negative <;> rfl
  · exact withSignOf_signed negative positive _

/-- Zero is an integer. -/
theorem truncated_zero : truncated 0 = 0 := by
  unfold truncated
  rw [abs_zero, Nat.floor_zero, withSignOf_zero]

/-- Cutting off the decimal places leaves the integer part. -/
theorem Fixed96.truncate_eq (x : Fixed96) : x.truncate = truncated x.number := by
  unfold Fixed96.number
  -- Both sides divide the mantissa by a power of ten, one of them among the integers.
  rw [truncated_signed x.negative (by positivity), ← Nat.cast_ofNat (R := ℚ) (n := 10),
    ← Nat.cast_pow 10, Nat.floor_div_eq_div]
  rfl

end Sign

section Data

/-- A decimal datum with a number is a finite one. -/
theorem DecimalDatum.number?_eq_some {datum : DecimalDatum} {number : ℚ}
    (held : datum.number? = some number) :
    ∃ negative coefficient exponent, datum = .finite negative coefficient exponent ∧
      number = signed negative ((coefficient : ℚ) * 10 ^ exponent) := by
  -- The other two data have no number to begin with.
  cases datum with
  | finite negative coefficient exponent =>
    exact ⟨negative, coefficient, exponent, rfl, (Option.some.inj held).symm⟩
  | nan => cases held
  | infinite negative => cases held

/-- A binary datum with a number is a finite one. -/
theorem BinaryDatum.number?_eq_some {datum : BinaryDatum} {number : ℚ}
    (held : datum.number? = some number) :
    ∃ negative significand exponent, datum = .finite negative significand exponent ∧
      number = signed negative ((significand : ℚ) * 2 ^ exponent) := by
  cases datum with
  | finite negative significand exponent =>
    exact ⟨negative, significand, exponent, rfl, (Option.some.inj held).symm⟩
  | nan => cases held
  | infinite negative => cases held

/-- The exponent of the leading digit is a logarithm. -/
theorem log_decimal {coefficient : ℕ} (positive : 0 < coefficient) (exponent : ℤ) :
    Int.log 10 ((coefficient : ℚ) * 10 ^ exponent) = exponent + Nat.log 10 coefficient := by
  have coefficientPos : (0 : ℚ) < coefficient := by exact_mod_cast positive
  -- The coefficient is between two powers of ten, and the exponent moves both of them.
  have lower : ((10 : ℕ) : ℚ) ^ (exponent + Nat.log 10 coefficient) ≤
      coefficient * 10 ^ exponent := by
    have digits : (10 : ℚ) ^ (Nat.log 10 coefficient : ℤ) ≤ coefficient := by
      exact_mod_cast Nat.pow_log_le_self 10 positive.ne'
    rw [add_comm, Nat.cast_ofNat, zpow_add₀ (by norm_num)]
    gcongr
  have upper : (coefficient : ℚ) * 10 ^ exponent <
      ((10 : ℕ) : ℚ) ^ (exponent + Nat.log 10 coefficient + 1) := by
    have digits : (coefficient : ℚ) < 10 ^ ((Nat.log 10 coefficient : ℤ) + 1) := by
      exact_mod_cast Nat.lt_pow_succ_log_self (by norm_num) coefficient
    rw [add_assoc, add_comm, Nat.cast_ofNat, zpow_add₀ (by norm_num)]
    gcongr
  -- An integer between two neighbours is the lower one, so the bounds fix the logarithm.
  apply le_antisymm
  · exact Int.lt_add_one_iff.mp ((Int.lt_zpow_iff_log_lt (by norm_num) (by positivity)).mp upper)
  · exact (Int.zpow_le_iff_le_log (by norm_num) (by positivity)).mp lower

end Data

end BsonTable
