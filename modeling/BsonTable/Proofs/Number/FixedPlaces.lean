import BsonTable.Proofs.Number.Rational
import Mathlib.Tactic.FieldSimp

/-!
The decimal places that fixed point holds of a magnitude, and what rounding to them makes of it.

Everything here is a function of the magnitude alone, not of the digits that it is stored with.
-/

namespace BsonTable

namespace Fixed96

/-- The nearest integer to a magnitude, a half going up. -/
def halfUp (magnitude : ℚ) : ℕ :=
  ⌊magnitude + 1 / 2⌋₊

/-- Whether ninety-six bits hold a magnitude that is rounded to a number of decimal places. -/
def HoldsPlaces (magnitude : ℚ) (places : ℕ) : Prop :=
  -- The half is for rounding, which must not reach the next power of two.
  magnitude * 10 ^ places + 1 / 2 < 2 ^ 96

instance (magnitude : ℚ) (places : ℕ) : Decidable (HoldsPlaces magnitude places) :=
  inferInstanceAs (Decidable (_ < _))

/-- The most decimal places, of twenty-eight, that ninety-six bits hold of a magnitude. -/
def placesOf (magnitude : ℚ) : ℕ :=
  Nat.findGreatest (HoldsPlaces magnitude) 28

/-- A magnitude rounded to the places that ninety-six bits hold of it. -/
def kept (magnitude : ℚ) : ℚ :=
  halfUp (magnitude * 10 ^ placesOf magnitude) / 10 ^ placesOf magnitude

/-- The integer part that is left of a magnitude after rounding it to the places that are held. -/
def wholePart (magnitude : ℚ) : ℕ :=
  -- The places are those of the magnitude itself, not those of what it is rounded to.
  ⌊magnitude + 1 / (2 * 10 ^ placesOf magnitude)⌋₊

/-- Whether that rounding reaches the next integer. -/
def Carries (magnitude : ℚ) : Prop :=
  1 ≤ Int.fract magnitude + 1 / (2 * 10 ^ placesOf magnitude)

instance (magnitude : ℚ) : Decidable (Carries magnitude) :=
  inferInstanceAs (Decidable (_ ≤ _))

/-- Whether a magnitude is a mantissa of ninety-six bits with at most twenty-eight places. -/
def IsHeld (magnitude : ℚ) : Prop :=
  ∃ mantissa scale : ℕ, mantissa < 2 ^ 96 ∧ scale ≤ 28 ∧ magnitude = mantissa / 10 ^ scale

/--
What a positive magnitude reads as, if it is not too great or too small.

One that is written with a negative exponent is rounded with one digit before the point first.
-/
def near? (magnitude : ℚ) : Option ℚ :=
  -- From a millionth on a number is written with all its digits, and below with an exponent.
  if 10 ^ (-6 : ℤ) ≤ magnitude then
    if HoldsPlaces magnitude 0 then some (kept magnitude) else none
  else
    -- The power of ten that brings the leading digit in front of the point.
    let shift := (-Int.log 10 magnitude).toNat
    if 28 < shift then none
    -- The second rounding is to the twenty-eight places that are left behind the point.
    else some (halfUp (kept (magnitude * 10 ^ shift) * 10 ^ (28 - shift)) / 10 ^ 28)

/-- An integer is the nearest integer to itself. -/
theorem halfUp_natCast (value : ℕ) : halfUp value = value := by
  unfold halfUp
  -- Adding a half to an integer does not reach the next one.
  rw [Nat.floor_eq_iff (by positivity)]
  constructor <;> linarith

section Places

variable {magnitude : ℚ}

/-- Fewer places are held more easily. -/
theorem HoldsPlaces.of_le {places fewer : ℕ} (holds : HoldsPlaces magnitude places)
    (positive : 0 ≤ magnitude) (le : fewer ≤ places) : HoldsPlaces magnitude fewer := by
  unfold HoldsPlaces at holds ⊢
  -- With fewer places the point moves less far, so less is added to the same half.
  have scaled : magnitude * 10 ^ fewer ≤ magnitude * 10 ^ places := by gcongr; norm_num
  linarith

/-- Smaller magnitudes are held more easily. -/
theorem HoldsPlaces.of_magnitude_le {places : ℕ} {smaller : ℚ}
    (holds : HoldsPlaces magnitude places) (le : smaller ≤ magnitude) :
    HoldsPlaces smaller places := by
  unfold HoldsPlaces at holds ⊢
  -- The same places move the point of a smaller magnitude less far.
  have scaled : smaller * 10 ^ places ≤ magnitude * 10 ^ places := by gcongr
  linarith

/-- Nothing has more than twenty-eight places. -/
theorem placesOf_le (magnitude : ℚ) : placesOf magnitude ≤ 28 :=
  -- The search stops there.
  Nat.findGreatest_le 28

/-- Places that are held are at most all the places that are held. -/
theorem HoldsPlaces.le_placesOf {places : ℕ} (holds : HoldsPlaces magnitude places)
    (within : places ≤ 28) : places ≤ placesOf magnitude :=
  Nat.le_findGreatest within holds

/-- If anything is held, then so are all the places. -/
theorem holdsPlaces_placesOf (holds : HoldsPlaces magnitude 0) :
    HoldsPlaces magnitude (placesOf magnitude) :=
  Nat.findGreatest_spec (Nat.zero_le 28) holds

/-- Greater magnitudes have fewer places. -/
theorem placesOf_anti {smaller : ℚ} (le : smaller ≤ magnitude) :
    placesOf magnitude ≤ placesOf smaller :=
  Nat.findGreatest_mono_left (fun _ holds => HoldsPlaces.of_magnitude_le holds le) 28

/-- The places are those beyond which one more is not held. -/
theorem placesOf_eq {places : ℕ} (positive : 0 ≤ magnitude) (within : places ≤ 28)
    (holds : HoldsPlaces magnitude places)
    (most : places < 28 → ¬ HoldsPlaces magnitude (places + 1)) : placesOf magnitude = places := by
  -- More places than these would hold one more place, which does not hold.
  apply Nat.le_antisymm _ (holds.le_placesOf within)
  by_contra more
  have bound := placesOf_le magnitude
  have all := holdsPlaces_placesOf (holds.of_le positive (Nat.zero_le _))
  exact most (by omega) (all.of_le positive (by omega))

/-- Places are held when the rounded magnitude is a mantissa. -/
theorem holdsPlaces_iff {places : ℕ} (positive : 0 ≤ magnitude) :
    HoldsPlaces magnitude places ↔ halfUp (magnitude * 10 ^ places) < 2 ^ 96 := by
  unfold HoldsPlaces halfUp
  -- The floor is below an integer exactly when what it is taken of is.
  rw [Nat.floor_lt (by positivity)]
  norm_num

/-- A magnitude that fits but for the rounding is held with one place less. -/
theorem holdsPlaces_of_succ_lt {places : ℕ} (fits : magnitude * 10 ^ (places + 1) < 2 ^ 96) :
    HoldsPlaces magnitude places := by
  -- A tenth of what fits leaves room for the half.
  have tenfold : magnitude * 10 ^ (places + 1) = magnitude * 10 ^ places * 10 := by ring
  rw [tenfold] at fits
  unfold HoldsPlaces
  norm_num at fits ⊢
  linarith

/-- A mantissa is held at its scale. -/
theorem holdsPlaces_of_eq {mantissa scale : ℕ} (small : mantissa < 2 ^ 96)
    (value : magnitude * 10 ^ scale = mantissa) : HoldsPlaces magnitude scale := by
  unfold HoldsPlaces
  -- A mantissa is at least one below the limit, so that a half can be added.
  have cast : (mantissa : ℚ) + 1 ≤ 2 ^ 96 := by exact_mod_cast small
  rw [value]
  linarith

/-- A magnitude that is held is not rounded. -/
theorem kept_of_eq {mantissa scale : ℕ} (small : mantissa < 2 ^ 96) (within : scale ≤ 28)
    (value : magnitude * 10 ^ scale = mantissa) : kept magnitude = magnitude := by
  -- At least the places of the scale are held, and all more of them are zeros.
  have fewer := (holdsPlaces_of_eq small value).le_placesOf within
  obtain ⟨more, places⟩ := Nat.exists_eq_add_of_le fewer
  have whole : magnitude * 10 ^ placesOf magnitude = ((mantissa * 10 ^ more : ℕ) : ℚ) := by
    rw [places, pow_add, ← mul_assoc, value]
    push_cast
    rfl
  -- Nothing is rounded, and the powers of ten cancel.
  unfold kept
  rw [whole, halfUp_natCast, ← whole]
  field_simp

/-- Half a unit of a decimal place is at most one half. -/
theorem halfUnit_le (places : ℕ) : (1 : ℚ) / (2 * 10 ^ places) ≤ 1 / 2 := by
  -- Half a unit is the less the more places there are.
  have power : (1 : ℚ) ≤ 10 ^ places := one_le_pow₀ (by norm_num)
  gcongr
  linarith

/-- Rounding to the places that are held adds at most one half. -/
theorem kept_le (positive : 0 ≤ magnitude) : kept magnitude ≤ magnitude + 1 / 2 := by
  have half := halfUnit_le (placesOf magnitude)
  have rounded : (halfUp (magnitude * 10 ^ placesOf magnitude) : ℚ) ≤
      magnitude * 10 ^ placesOf magnitude + 1 / 2 := Nat.floor_le (by positivity)
  -- The floor takes nothing away that was not added, so the half unit bounds the sum.
  calc kept magnitude
      ≤ (magnitude * 10 ^ placesOf magnitude + 1 / 2) / 10 ^ placesOf magnitude := by
        unfold kept
        gcongr
    _ = magnitude + 1 / (2 * 10 ^ placesOf magnitude) := by field_simp
    _ ≤ magnitude + 1 / 2 := by linarith

/-- The magnitude of a fixed-point decimal is held. -/
theorem isHeld_number (fixed : Fixed96) : IsHeld |fixed.number| := by
  -- The two bounds are fields of the decimal itself.
  have small : fixed.mantissa < 2 ^ 96 := fixed.mantissa_lt
  refine ⟨fixed.mantissa, fixed.scale, small, fixed.scale_le, ?_⟩
  exact abs_signed fixed.negative (by positivity)

end Places

section Near

variable {magnitude : ℚ}

/-- A magnitude below the limit of plain digits leaves ninety-six bits free. -/
theorem holdsPlaces_of_tiny (tiny : magnitude < 10 ^ (-6 : ℤ)) : HoldsPlaces magnitude 0 := by
  unfold HoldsPlaces
  -- A millionth and a half is far below the limit.
  norm_num at tiny ⊢
  linarith

/-- The leading digit of a tiny magnitude stands so many places behind the point. -/
theorem shift_tiny (tiny : magnitude < 10 ^ (-6 : ℤ)) (positive : 0 < magnitude) :
    7 ≤ (-Int.log 10 magnitude).toNat ∧
      magnitude * 10 ^ (-Int.log 10 magnitude).toNat < 10 := by
  -- A magnitude below the millionth has its leading digit behind the sixth place.
  have above : Int.log 10 magnitude < -6 :=
    (Int.lt_zpow_iff_log_lt (by norm_num) positive).mp (by exact_mod_cast tiny)
  refine ⟨by omega, ?_⟩
  have upper := Int.lt_zpow_succ_log_self (b := 10) (by norm_num) magnitude
  calc magnitude * 10 ^ (-Int.log 10 magnitude).toNat
      < 10 ^ (Int.log 10 magnitude + 1) * 10 ^ (-Int.log 10 magnitude).toNat := by
        rw [Nat.cast_ofNat] at upper
        gcongr
    _ = 10 := by
        rw [← zpow_natCast, Int.toNat_of_nonneg (by omega), ← zpow_add₀ (by norm_num)]
        norm_num

/-- A positive magnitude reads as nothing only if it is too great or too small. -/
theorem near?_eq_none_iff (positive : 0 < magnitude) :
    near? magnitude = none ↔ ¬ HoldsPlaces magnitude 0 ∨ magnitude < 10 ^ (-28 : ℤ) := by
  unfold near?
  -- Plain digits are never too small, and digits with an exponent never too great.
  by_cases plain : (10 : ℚ) ^ (-6 : ℤ) ≤ magnitude
  · have great : ¬ magnitude < (10 : ℚ) ^ (-28 : ℤ) :=
      not_lt.mpr (le_trans (zpow_le_zpow_right₀ (by norm_num) (by norm_num)) plain)
    rw [if_pos plain]
    by_cases holds : HoldsPlaces magnitude 0
    · rw [if_pos holds]
      exact iff_of_false (by simp) (not_or.mpr ⟨not_not.mpr holds, great⟩)
    · rw [if_neg holds]
      exact iff_of_true rfl (Or.inl holds)
  · -- Being too small is the same as having the leading digit behind the last place.
    have below : magnitude < 10 ^ (-28 : ℤ) ↔ Int.log 10 magnitude < -28 := by
      rw [← Int.lt_zpow_iff_log_lt (by norm_num) positive, Nat.cast_ofNat]
    rw [if_neg plain, below]
    dsimp only
    by_cases wide : 28 < (-Int.log 10 magnitude).toNat
    · rw [if_pos wide]
      exact iff_of_true rfl (Or.inr (by omega))
    · rw [if_neg wide]
      have holds := holdsPlaces_of_tiny (not_le.mp plain)
      exact iff_of_false (by simp) (not_or.mpr ⟨not_not.mpr holds, by omega⟩)

/-- A positive integer reads as itself, if ninety-six bits hold it. -/
theorem near?_natCast {value : ℕ} (positive : 0 < value) :
    near? (value : ℚ) = if value < 2 ^ 96 then some (value : ℚ) else none := by
  have plain : (10 : ℚ) ^ (-6 : ℤ) ≤ value := by
    have one : (1 : ℚ) ≤ value := by exact_mod_cast positive
    exact (zpow_le_one_of_nonpos₀ (by norm_num) (by norm_num)).trans one
  -- An integer is at least one, so that it is written with all its digits.
  unfold near?
  rw [if_pos plain]
  by_cases small : value < 2 ^ 96
  · -- No places have to be kept.
    have whole : (value : ℚ) * 10 ^ 0 = value := by rw [pow_zero, mul_one]
    rw [if_pos (holdsPlaces_of_eq small whole), if_pos small,
      kept_of_eq small (Nat.zero_le 28) whole]
  · rw [if_neg small, if_neg]
    rwa [holdsPlaces_iff (Nat.cast_nonneg _), pow_zero, mul_one, halfUp_natCast]

/-- What a magnitude reads as is no negative number. -/
theorem near?_nonneg {read : ℚ} (near : near? magnitude = some read) : 0 ≤ read := by
  unfold near? at near
  -- Each of the two readings is a rounded magnitude divided by a power of ten.
  split at near
  · split at near
    · cases near
      unfold kept
      positivity
    · cases near
  · dsimp only at near
    split at near
    · cases near
    · cases near
      positivity

/-- A positive magnitude that is held reads as itself. -/
theorem near?_of_isHeld (positive : 0 < magnitude) (held : IsHeld magnitude) :
    near? magnitude = some magnitude := by
  obtain ⟨mantissa, scale, small, within, rfl⟩ := held
  have value : (mantissa : ℚ) / 10 ^ scale * 10 ^ scale = mantissa :=
    div_mul_cancel₀ _ (by positivity)
  unfold near?
  -- Plain digits are kept as they are. With an exponent they are moved twice before.
  by_cases plain : (10 : ℚ) ^ (-6 : ℤ) ≤ (mantissa : ℚ) / 10 ^ scale
  · have holds := (holdsPlaces_of_eq small value).of_le positive.le (Nat.zero_le scale)
    rw [if_pos plain, if_pos holds, kept_of_eq small within value]
  · -- The leading digit stands at a place that is held, so the point moves over held places only.
    have digit : (10 : ℚ) ^ (-(scale : ℤ)) ≤ (mantissa : ℚ) / 10 ^ scale := by
      have count : (1 : ℚ) ≤ mantissa := by
        rw [lt_div_iff₀ (by positivity), zero_mul] at positive
        exact_mod_cast positive
      rw [zpow_neg, zpow_natCast, ← one_div]
      gcongr
    have leading : -(scale : ℤ) ≤ Int.log 10 ((mantissa : ℚ) / 10 ^ scale) :=
      (Int.zpow_le_iff_le_log (by norm_num) positive).mp (by exact_mod_cast digit)
    rw [if_neg plain]
    dsimp only
    generalize Int.log 10 ((mantissa : ℚ) / 10 ^ scale) = log at leading
    obtain ⟨behind, places⟩ : ∃ behind, scale = (-log).toNat + behind :=
      ⟨scale - (-log).toNat, by omega⟩
    obtain ⟨room, rest⟩ : ∃ room, 28 - (-log).toNat = behind + room :=
      ⟨28 - (-log).toNat - behind, by omega⟩
    have moved : (mantissa : ℚ) / 10 ^ scale * 10 ^ (-log).toNat * 10 ^ behind = mantissa := by
      -- All the places are in front of or behind the point that was moved, and none is lost.
      rw [mul_assoc, ← pow_add, ← places, value]
    have whole : (mantissa : ℚ) / 10 ^ scale * 10 ^ (-log).toNat * 10 ^ (28 - (-log).toNat) =
        ((mantissa * 10 ^ room : ℕ) : ℚ) := by
      rw [rest, pow_add, ← mul_assoc, moved]
      push_cast
      rfl
    rw [if_neg (by omega), kept_of_eq small (by omega) moved, whole, halfUp_natCast,
      show 28 = scale + room by omega, pow_add]
    push_cast
    field_simp

end Near

section WholePart

variable {magnitude : ℚ}

/-- Rounding is off by half a unit of the last place. -/
theorem floor_halfUp_div (magnitude : ℚ) (places : ℕ) :
    ⌊(halfUp (magnitude * 10 ^ places) : ℚ) / 10 ^ places⌋₊ =
      ⌊magnitude + 1 / (2 * 10 ^ places)⌋₊ := by
  -- The half unit moved by the places is the half that rounding adds.
  have sum : magnitude + 1 / (2 * 10 ^ places) =
      (magnitude * 10 ^ places + 1 / 2) / ((10 ^ places : ℕ) : ℚ) := by
    push_cast
    field_simp
  rw [sum, Nat.floor_div_natCast, ← Nat.cast_ofNat (R := ℚ) (n := 10), ← Nat.cast_pow 10,
    Nat.floor_div_eq_div, Nat.cast_pow, Nat.cast_ofNat]
  rfl

/-- Rounding only adds to an integer part. -/
theorem floor_le_wholePart (magnitude : ℚ) : ⌊magnitude⌋₊ ≤ wholePart magnitude :=
  -- What is added is positive.
  Nat.floor_mono (le_add_of_nonneg_right (by positivity))

/-- No integer part is left of a tiny magnitude. -/
theorem wholePart_of_tiny (tiny : magnitude < 10 ^ (-6 : ℤ)) : wholePart magnitude = 0 := by
  -- A millionth and half a unit are together below one.
  have half := halfUnit_le (placesOf magnitude)
  norm_num at tiny
  exact Nat.floor_eq_zero.mpr (by linarith)

/-- What a positive magnitude reads as has that integer part. -/
theorem floor_near? (positive : 0 < magnitude) {read : ℚ} (near : near? magnitude = some read) :
    ⌊read⌋₊ = wholePart magnitude := by
  unfold near? at near
  -- With an exponent there is no integer part, as both roundings stay below one.
  by_cases plain : (10 : ℚ) ^ (-6 : ℤ) ≤ magnitude
  · rw [if_pos plain] at near
    split at near
    · cases near
      exact floor_halfUp_div magnitude (placesOf magnitude)
    · cases near
  · rw [if_neg plain] at near
    dsimp only at near
    split at near
    · cases near
    · rename_i narrow
      have tiny := not_le.mp plain
      obtain ⟨behind, digit⟩ := shift_tiny tiny positive
      generalize (-Int.log 10 magnitude).toNat = shift at near narrow behind digit
      have moved : 0 ≤ magnitude * 10 ^ shift := by positivity
      have kept := kept_le moved
      have power : (10 : ℚ) ^ 7 ≤ 10 ^ shift := pow_le_pow_right₀ (by norm_num) behind
      -- Both magnitudes are far below one.
      have readSmall : Fixed96.kept (magnitude * 10 ^ shift) / 10 ^ shift < 1 / 4 := by
        rw [div_lt_iff₀ (by positivity)]
        linarith
      have scaled : Fixed96.kept (magnitude * 10 ^ shift) * 10 ^ (28 - shift) =
          Fixed96.kept (magnitude * 10 ^ shift) / 10 ^ shift * 10 ^ 28 := by
        obtain ⟨rest, sum⟩ := Nat.exists_eq_add_of_le (Nat.not_lt.mp narrow)
        rw [sum, Nat.add_sub_cancel_left, pow_add]
        field_simp
      cases near
      rw [scaled, floor_halfUp_div, wholePart_of_tiny tiny, Nat.floor_eq_zero]
      norm_num
      linarith

/-- The integer part never decreases as the magnitude grows. -/
theorem wholePart_mono {smaller : ℚ} (le : smaller ≤ magnitude) :
    wholePart smaller ≤ wholePart magnitude := by
  -- With more places a smaller magnitude gets less added, so the sum is smaller too.
  have fewer := placesOf_anti le
  apply Nat.floor_mono
  gcongr
  norm_num

/-- The integer part is that of the magnitude, or the next integer. -/
theorem wholePart_eq (positive : 0 ≤ magnitude) :
    wholePart magnitude = if Carries magnitude then ⌊magnitude⌋₊ + 1 else ⌊magnitude⌋₊ := by
  have half := halfUnit_le (placesOf magnitude)
  have unit : (0 : ℚ) < 1 / (2 * 10 ^ placesOf magnitude) := by positivity
  -- The integer part and the fraction are compared with the half unit one by one.
  have whole : (⌊magnitude⌋₊ : ℚ) + Int.fract magnitude = magnitude := by
    rw [natCast_floor_eq_intCast_floor positive, Int.floor_add_fract]
  have fraction := Int.fract_nonneg magnitude
  have proper := Int.fract_lt_one magnitude
  have atLeast : 0 ≤ magnitude + 1 / (2 * 10 ^ placesOf magnitude) := by positivity
  unfold wholePart
  -- The sum with the half unit stays below the second integer, as the unit is at most a half.
  split
  · rename_i carries
    unfold Carries at carries
    rw [Nat.floor_eq_iff atLeast]
    push_cast
    constructor <;> linarith
  · rename_i stays
    unfold Carries at stays
    rw [Nat.floor_eq_iff atLeast]
    constructor <;> linarith

/-- A magnitude that is held keeps its integer part. -/
theorem not_carries_of_isHeld (atLeast : 0 ≤ magnitude) (held : IsHeld magnitude) :
    ¬ Carries magnitude := by
  -- Held magnitudes read as themselves, and the reading has the rounded integer part.
  have whole : wholePart magnitude = ⌊magnitude⌋₊ := by
    rcases atLeast.eq_or_lt with rfl | positive
    · rw [wholePart_of_tiny (by positivity), Nat.floor_zero]
    · exact (floor_near? positive (near?_of_isHeld positive held)).symm
  intro carries
  rw [wholePart_eq atLeast, if_pos carries] at whole
  omega

/-- Where the number of places stays the same, the integer part steps up below an integer. -/
theorem le_wholePart_iff {bound places : ℕ} (within : places ≤ 28)
    (holds : HoldsPlaces bound places)
    (most : places < 28 → ¬ HoldsPlaces (bound - 1) (places + 1)) (positive : 0 ≤ magnitude) :
    bound ≤ wholePart magnitude ↔ (bound : ℚ) - 1 / (2 * 10 ^ places) ≤ magnitude := by
  have half := halfUnit_le (placesOf magnitude)
  have unit : (0 : ℚ) < 1 / (2 * 10 ^ placesOf magnitude) := by positivity
  have stepUnit : (0 : ℚ) < 1 / (2 * 10 ^ places) := by positivity
  have stepHalf := halfUnit_le places
  rw [wholePart, Nat.le_floor_iff (by positivity)]
  -- Away from the bound the half unit decides nothing; only next to it are the places the same.
  rcases le_or_gt (bound : ℚ) magnitude with above | below
  · exact iff_of_true (by linarith) (by linarith)
  · rcases lt_or_ge magnitude ((bound : ℚ) - 1) with far | near
    · exact iff_of_false (by linarith) (by linarith)
    · have same : placesOf magnitude = places :=
        placesOf_eq positive within (holds.of_magnitude_le below.le)
          fun less more => most less (more.of_magnitude_le near)
      rw [same, sub_le_iff_le_add]

end WholePart

end Fixed96

end BsonTable
