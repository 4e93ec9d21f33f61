import BsonTable.Number.FixedText
import BsonTable.Library.Standard
import BsonTable.Proofs.Number.DecimalLibrary
import Mathlib.Data.List.TakeWhile

/-! Decimals of the standard library: how it rounds digits, and that it is a lawful one. -/

namespace BsonTable

namespace Fixed96

section Rounding

/-- Dropping decimal places is rounding a quotient. -/
theorem halfUp_div (mantissa places : ℕ) :
    halfUp ((mantissa : ℚ) / 10 ^ places) = dropPlaces mantissa places := by
  -- Without places nothing is dropped. Otherwise the half is a whole number of units.
  cases places with
  | zero => simp [halfUp_natCast, dropPlaces]
  | succ places =>
    unfold halfUp dropPlaces
    -- Half of a power of ten is five times the power below it.
    have half : 10 ^ (places + 1) / 2 = 5 * 10 ^ places := by omega
    have sum : (mantissa : ℚ) / 10 ^ (places + 1) + 1 / 2 =
        ((mantissa + 5 * 10 ^ places : ℕ) : ℚ) / ((10 ^ (places + 1) : ℕ) : ℚ) := by
      push_cast
      rw [pow_succ]
      field_simp
      ring
    rw [sum, Nat.floor_div_eq_div, Nat.pow_eq, half]

/-- The first digit that is dropped decides about the last one that is kept. -/
theorem dropPlaces_succ (mantissa places : ℕ) :
    dropPlaces mantissa (places + 1) =
      mantissa / 10 ^ (places + 1) + if mantissa / 10 ^ places % 10 < 5 then 0 else 1 := by
  -- The quotient and the next digit are what is left of the sum with the half.
  unfold dropPlaces
  have half : 10 ^ (places + 1) / 2 = 10 ^ places * 5 := by omega
  rw [Nat.pow_eq, half, Nat.pow_succ, ← Nat.div_div_eq_div_mul, ← Nat.div_div_eq_div_mul,
    Nat.add_mul_div_left _ _ (Nat.pow_pos (by norm_num))]
  split <;> omega

/-- A part of the places is left of digits that are taken to have fewer. -/
theorem shift_places (mantissa : ℕ) {places kept : ℕ} (within : kept ≤ places) :
    (mantissa : ℚ) / 10 ^ places * 10 ^ kept = mantissa / 10 ^ (places - kept) := by
  -- The places that are dropped are the ones that the power leaves over.
  obtain ⟨dropped, rfl⟩ := Nat.exists_eq_add_of_le within
  rw [Nat.add_sub_cancel_left, pow_add]
  field_simp

end Rounding

section Plain

variable {coefficient places : ℕ}

/-- The digits of a magnitude without its last places fit exactly when the magnitude does. -/
theorem div_lt_iff {scale : ℕ} (within : scale ≤ places) :
    coefficient / 10 ^ (places - scale) < 2 ^ 96 ↔
      (coefficient : ℚ) / 10 ^ places * 10 ^ scale < 2 ^ 96 := by
  -- The quotient is below the limit exactly when the magnitude is.
  rw [shift_places coefficient within, ← Nat.cast_ofNat (R := ℚ) (n := 10), ← Nat.cast_pow 10,
    ← Nat.floor_div_eq_div (K := ℚ), Nat.floor_lt (by positivity)]
  norm_num

/-- The scale that is found is the widest one within the limit. -/
theorem widestScale?_eq_some : ∀ {limit scale : ℕ},
    widestScale? coefficient places limit = some scale →
      scale ≤ limit ∧ coefficient / 10 ^ (places - scale) < 2 ^ 96 ∧
        ∀ wider, scale < wider → wider ≤ limit → 2 ^ 96 ≤ coefficient / 10 ^ (places - wider) := by
  -- The limit is what the search counts down.
  intro limit
  induction limit with
  | zero =>
    intro scale found
    simp only [widestScale?, Nat.pow_eq] at found
    split at found
    · rename_i fits
      cases found
      exact ⟨Nat.le_refl 0, fits, fun wider more less => by omega⟩
    · cases found
  | succ limit ih =>
    intro scale found
    simp only [widestScale?, Nat.pow_eq] at found
    split at found
    · rename_i fits
      cases found
      exact ⟨Nat.le_refl _, fits, fun wider more less => by omega⟩
    · rename_i crowded
      obtain ⟨within, fits, most⟩ := ih found
      refine ⟨by omega, fits, fun wider more less => ?_⟩
      -- Either the limit itself was too wide, or what was found below it is the widest.
      rcases Nat.lt_or_ge limit wider with above | below
      · rw [show wider = limit + 1 by omega]
        exact Nat.not_lt.mp crowded
      · exact most wider more below

/-- No scale is found only for a magnitude whose integer part is too great. -/
theorem widestScale?_eq_none : ∀ {limit : ℕ},
    widestScale? coefficient places limit = none → 2 ^ 96 ≤ coefficient / 10 ^ places := by
  -- The search has tried every scale down to zero, which is the one that is reported.
  intro limit
  induction limit with
  | zero =>
    intro missing
    simp only [widestScale?, Nat.pow_eq] at missing
    split at missing
    · cases missing
    · rename_i crowded
      exact Nat.not_lt.mp crowded
  | succ limit ih =>
    intro missing
    simp only [widestScale?, Nat.pow_eq] at missing
    split at missing
    · cases missing
    · exact ih missing

/-- At the scale that is found, digits are rounded, once more with one place less if need be. -/
theorem fitPlain?_of_scale {scale : ℕ}
    (found : widestScale? coefficient places (min places 28) = some scale) :
    fitPlain? coefficient places =
      if scale = places then some (coefficient, scale)
      else if dropPlaces coefficient (places - scale) < 2 ^ 96 then
        some (dropPlaces coefficient (places - scale), scale)
      else if scale = 0 then none
      else some ((dropPlaces coefficient (places - scale) + 4) / 10, scale - 1) := by
  -- Which digits are dropped is known, so the first of them is what decides.
  obtain ⟨within, fits, -⟩ := widestScale?_eq_some found
  simp only [fitPlain?, found, Option.bind_eq_bind, Option.bind_some, Nat.pow_eq, Option.pure_def]
  by_cases all : scale = places
  · rw [if_pos all, if_pos all]
  · obtain ⟨dropped, rfl⟩ : ∃ dropped, places = scale + (dropped + 1) :=
      ⟨places - scale - 1, by omega⟩
    have count : scale + (dropped + 1) - scale = dropped + 1 := by omega
    rw [count] at fits ⊢
    rw [if_neg all, if_neg all, dropPlaces_succ, Nat.add_sub_cancel]
    by_cases down : coefficient / 10 ^ dropped % 10 < 5
    · -- Rounding down keeps what fits.
      simp only [if_pos down, Nat.add_zero, if_pos fits]
    · simp only [if_neg down]
      split
      · rfl
      · split <;> rfl

/-- Plain digits without a scale read as nothing. -/
theorem fitPlain?_of_none (missing : widestScale? coefficient places (min places 28) = none) :
    fitPlain? coefficient places = none := by
  simp only [fitPlain?, missing]
  rfl

/-- Rounding up to the first mantissa without room leaves one place less. -/
theorem halfUp_of_overflow {magnitude : ℚ} {scale : ℕ} (positive : 0 ≤ magnitude)
    (upper : magnitude * 10 ^ (scale + 1) < 2 ^ 96)
    (lower : ¬ HoldsPlaces magnitude (scale + 1)) :
    halfUp (magnitude * 10 ^ (scale + 1)) = 2 ^ 96 ∧
      halfUp (magnitude * 10 ^ scale) = (2 ^ 96 + 4) / 10 := by
  unfold HoldsPlaces at lower
  -- A place less is a tenth of the magnitude, which is known up to rounding.
  have tenfold : magnitude * 10 ^ (scale + 1) = magnitude * 10 ^ scale * 10 := by ring
  rw [tenfold] at upper lower ⊢
  unfold halfUp
  rw [Nat.floor_eq_iff (by positivity), Nat.floor_eq_iff (by positivity)]
  norm_num at upper lower ⊢
  refine ⟨⟨?_, ?_⟩, ?_, ?_⟩ <;> linarith

/-- Beyond the scale that is found, the magnitude is not held. -/
theorem not_holdsPlaces_of_scale {scale : ℕ}
    (found : widestScale? coefficient places (min places 28) = some scale) (less : scale < places)
    (within : scale < 28) : ¬ HoldsPlaces ((coefficient : ℚ) / 10 ^ places) (scale + 1) := by
  -- One more place was tried and did not fit, rounding aside.
  obtain ⟨-, -, most⟩ := widestScale?_eq_some found
  intro holds
  have crowded := most (scale + 1) (by omega) (by omega)
  refine Nat.not_lt.mpr crowded ((div_lt_iff (by omega)).mpr ?_)
  unfold HoldsPlaces at holds
  linarith

/-- Digits that have to be rounded keep the places that are held, if any magnitude is. -/
theorem fitPlain?_of_rounded {scale : ℕ}
    (found : widestScale? coefficient places (min places 28) = some scale)
    (less : scale < places) :
    let magnitude := (coefficient : ℚ) / 10 ^ places
    fitPlain? coefficient places =
      if HoldsPlaces magnitude 0 then
        some (halfUp (magnitude * 10 ^ placesOf magnitude), placesOf magnitude)
      else none := by
  intro magnitude
  have positive : 0 ≤ magnitude := by positivity
  -- Digits are found to fit before they are rounded, and rounding may take the room away.
  obtain ⟨within, fits, -⟩ := widestScale?_eq_some found
  have crowded := not_holdsPlaces_of_scale found less
  have rounded : dropPlaces coefficient (places - scale) = halfUp (magnitude * 10 ^ scale) := by
    rw [shift_places coefficient less.le, halfUp_div]
  rw [fitPlain?_of_scale found, if_neg less.ne, rounded]
  by_cases room : HoldsPlaces magnitude scale
  · -- What was found to fit still does after rounding.
    have widest : placesOf magnitude = scale := placesOf_eq positive (by omega) room crowded
    rw [if_pos ((holdsPlaces_iff positive).mp room), if_pos (room.of_le positive (Nat.zero_le _)),
      widest]
  · rw [if_neg (mt (holdsPlaces_iff positive).mpr room)]
    cases scale with
    | zero => rw [if_pos rfl, if_neg room]
    | succ scale =>
      have upper : magnitude * 10 ^ (scale + 1) < 2 ^ 96 := (div_lt_iff less.le).mp fits
      have holds : HoldsPlaces magnitude scale := holdsPlaces_of_succ_lt upper
      have widest : placesOf magnitude = scale :=
        placesOf_eq positive (by omega) holds fun _ => room
      obtain ⟨full, fewer⟩ := halfUp_of_overflow positive upper room
      rw [if_neg (Nat.succ_ne_zero scale), if_pos (holds.of_le positive (Nat.zero_le _)), full,
        widest, fewer, Nat.add_sub_cancel]

/-- Plain digits read as the magnitude that they write, rounded to the places that are held. -/
theorem fitPlain?_of_holds (holds : HoldsPlaces ((coefficient : ℚ) / 10 ^ places) 0) :
    ∃ mantissa scale, fitPlain? coefficient places = some (mantissa, scale) ∧ mantissa < 2 ^ 96 ∧
      scale ≤ 28 ∧ (mantissa : ℚ) / 10 ^ scale = kept ((coefficient : ℚ) / 10 ^ places) := by
  have positive : (0 : ℚ) ≤ (coefficient : ℚ) / 10 ^ places := by positivity
  -- A scale is found, as at least the integer part fits.
  cases found : widestScale? coefficient places (min places 28) with
  | none =>
    have crowded := widestScale?_eq_none found
    refine absurd ((div_lt_iff (Nat.zero_le places)).mpr ?_) (Nat.not_lt.mpr crowded)
    unfold HoldsPlaces at holds
    linarith
  | some scale =>
    obtain ⟨within, fits, -⟩ := widestScale?_eq_some found
    by_cases all : scale = places
    · -- Every digit is kept.
      subst all
      rw [Nat.sub_self, Nat.pow_zero, Nat.div_one] at fits
      rw [fitPlain?_of_scale found, if_pos rfl]
      refine ⟨coefficient, scale, rfl, fits, by omega, ?_⟩
      exact (kept_of_eq fits (by omega) (div_mul_cancel₀ _ (by positivity))).symm
    · rw [fitPlain?_of_rounded found (by omega), if_pos holds]
      refine ⟨_, _, rfl, ?_, placesOf_le _, rfl⟩
      exact (holdsPlaces_iff positive).mp (holdsPlaces_placesOf holds)

/-- Plain digits of a magnitude that is too great read as nothing. -/
theorem fitPlain?_of_not_holds (crowded : ¬ HoldsPlaces ((coefficient : ℚ) / 10 ^ places) 0) :
    fitPlain? coefficient places = none := by
  have positive : (0 : ℚ) ≤ (coefficient : ℚ) / 10 ^ places := by positivity
  -- Even if the integer part fits, rounding it may not.
  cases found : widestScale? coefficient places (min places 28) with
  | none => exact fitPlain?_of_none found
  | some scale =>
    obtain ⟨within, fits, -⟩ := widestScale?_eq_some found
    by_cases all : scale = places
    · -- A coefficient that is a mantissa is held with all of its places.
      subst all
      rw [Nat.sub_self, Nat.pow_zero, Nat.div_one] at fits
      have value : (coefficient : ℚ) / 10 ^ scale * 10 ^ scale = coefficient :=
        div_mul_cancel₀ _ (by positivity)
      have holds := holdsPlaces_of_eq fits value
      exact absurd (holds.of_le positive (Nat.zero_le _)) crowded
    · rw [fitPlain?_of_rounded found (by omega), if_neg crowded]

end Plain

/-- Fields that are in range make their number. -/
theorem ofFields?_number (negative : Bool) {mantissa scale : ℕ} (small : mantissa < 2 ^ 96)
    (within : scale ≤ 28) :
    (ofFields? (negative && mantissa != 0) mantissa scale).map number =
      some (signed negative ((mantissa : ℚ) / 10 ^ scale)) := by
  -- The bounds hold, so the fields are taken.
  unfold ofFields?
  rw [dif_pos ⟨small, within⟩]
  simp only [Option.map_some, number, signed]
  -- A zero loses its sign, and is zero all the same.
  rcases Nat.eq_zero_or_pos mantissa with rfl | positive
  · simp
  · simp [positive.ne']

/-- Lowering an exponent by at most twenty-eight rounds to as many places at most. -/
theorem lowerExponent?_value {mantissa shift : ℕ} (scale : ℕ) (small : mantissa < 2 ^ 96)
    (narrow : shift ≤ 28) :
    ∃ lowered places, lowerExponent? mantissa scale shift = some (lowered, places) ∧
      lowered < 2 ^ 96 ∧ places ≤ 28 ∧ (lowered : ℚ) / 10 ^ places =
        halfUp ((mantissa : ℚ) / 10 ^ scale * 10 ^ (28 - shift)) / 10 ^ 28 := by
  unfold lowerExponent?
  rw [if_neg (by omega)]
  by_cases room : scale + shift ≤ 28
  · -- There is room for all the places, and nothing is rounded.
    obtain ⟨more, rest⟩ := Nat.exists_eq_add_of_le room
    have whole : (mantissa : ℚ) / 10 ^ scale * 10 ^ (28 - shift) =
        ((mantissa * 10 ^ more : ℕ) : ℚ) := by
      rw [show 28 - shift = scale + more by omega, pow_add]
      push_cast
      field_simp
    rw [if_pos room]
    refine ⟨mantissa, scale + shift, rfl, small, room, ?_⟩
    rw [whole, halfUp_natCast, rest, pow_add _ (scale + shift)]
    push_cast
    field_simp
  · -- The places beyond the limit are dropped, and the digit in front of them is rounded.
    have dropped : halfUp ((mantissa : ℚ) / 10 ^ scale * 10 ^ (28 - shift)) =
        dropPlaces mantissa (scale - (28 - shift)) := by
      rw [shift_places mantissa (by omega), halfUp_div]
    have less : dropPlaces mantissa (scale - (28 - shift)) ≤ mantissa := by
      rw [← halfUp_div]
      refine Nat.le_of_lt_succ ((Nat.floor_lt (by positivity)).mpr ?_)
      have quotient : (mantissa : ℚ) / 10 ^ (scale - (28 - shift)) ≤ mantissa :=
        div_le_self (Nat.cast_nonneg _) (one_le_pow₀ (by norm_num))
      push_cast
      linarith
    rw [if_neg room]
    exact ⟨_, 28, rfl, by omega, le_refl _, by rw [dropped]⟩

/-- Raising an exponent to an integer makes that integer, if ninety-six bits hold it. -/
theorem raiseExponent?_value {mantissa scale shift value : ℕ} (small : mantissa < 2 ^ 96)
    (within : scale ≤ 28) (narrow : shift ≤ 28)
    (whole : (mantissa : ℚ) / 10 ^ scale * 10 ^ shift = value) :
    ∃ raised places, raiseExponent? mantissa scale shift = some (raised, places) ∧
      (raised < 2 ^ 96 ↔ value < 2 ^ 96) ∧ places ≤ 28 ∧ (raised : ℚ) / 10 ^ places = value := by
  unfold raiseExponent?
  rw [if_neg (by omega)]
  by_cases room : shift ≤ scale
  · -- The point only moves within the digits, so that no digit is added.
    rw [shift_places mantissa room] at whole
    have less : value ≤ mantissa := by
      rw [← Nat.cast_le (α := ℚ), ← whole]
      exact div_le_self (Nat.cast_nonneg _) (one_le_pow₀ (by norm_num))
    rw [if_pos room]
    exact ⟨mantissa, scale - shift, rfl, iff_of_true small (by omega), by omega, whole⟩
  · -- The digits get zeros behind them, so that the integer may be too great.
    obtain ⟨more, rfl⟩ := Nat.exists_eq_add_of_le (Nat.le_of_not_le room)
    have integer : mantissa * 10 ^ more = value := by
      rw [pow_add, ← mul_assoc, div_mul_cancel₀ _ (by positivity)] at whole
      exact_mod_cast whole
    rw [if_neg room, Nat.add_sub_cancel_left, Nat.pow_eq, integer]
    split
    · rename_i zero
      have none : value = 0 := by rw [← integer, zero, Nat.zero_mul]
      exact ⟨0, 0, rfl, by rw [none], Nat.zero_le 28, by rw [none, pow_zero, div_one]⟩
    · exact ⟨value, 0, rfl, Iff.rfl, Nat.zero_le 28, by rw [pow_zero, div_one]⟩

section Text

/-- Plain digits begin with a digit. -/
theorem isDigit_of_head?_writePlain (coefficient places : ℕ) :
    ∀ c, (Decimal128.writePlain coefficient places).head? = some c → c.isDigit = true := by
  -- The first digit is one of the numeral, or of the padded one in front of the point.
  intro c first
  unfold Decimal128.writePlain at first
  split at first
  · exact Text.isDigit_of_mem_numeral coefficient c (List.mem_of_mem_head? first)
  · have length := Text.length_paddedNumeral_eq (places + 1) coefficient
    dsimp only at first
    -- There is a digit in front of the point, as the digits are filled up for it.
    rw [List.head?_append_of_ne_nil _ (List.ne_nil_of_length_pos (by
      rw [List.length_take]
      omega))] at first
    exact Text.isDigit_of_mem_paddedNumeral _ coefficient c
      (List.mem_of_mem_take (List.mem_of_mem_head? first))

/-- Plain digits are split at their point as they were written. -/
theorem readPointed?_writePlain (coefficient places : ℕ) :
    readPointed? (Decimal128.writePlain coefficient places) = some (coefficient, places) := by
  unfold Decimal128.writePlain readPointed?
  split
  · rename_i whole
    have digits := Text.isDigit_of_mem_numeral coefficient
    dsimp only
    rw [List.takeWhile_eq_self_iff.mpr digits, List.dropWhile_eq_nil_iff.mpr digits]
    dsimp only
    rw [Text.readNumeral?_numeral, whole]
    rfl
  · rename_i fraction
    have digits := Text.isDigit_of_mem_paddedNumeral (places + 1) coefficient
    have length := Text.length_paddedNumeral_eq (places + 1) coefficient
    have number := Text.readNumeral?_paddedNumeral (places + 1) coefficient
    dsimp only
    generalize Text.paddedNumeral (places + 1) coefficient = filled at digits length number
    have front : ∀ c ∈ filled.take (filled.length - places), c.isDigit = true :=
      fun c inside => digits c (List.mem_of_mem_take inside)
    have behind : (filled.drop (filled.length - places)).all Char.isDigit = true :=
      List.all_eq_true.mpr fun c inside => digits c (List.mem_of_mem_drop inside)
    have count : filled.length - (filled.length - places) = places := by omega
    -- The point is the first character that is no digit.
    have cut := Text.span_append_cons front (show Char.isDigit '.' = false by decide)
      (filled.drop (filled.length - places))
    rw [cut.1, cut.2]
    simp only [guard]
    rw [if_pos behind, List.take_append_drop, number, List.length_drop, count]
    rfl

/-- Nothing but digits and a point is split. -/
theorem isDigit_of_readPointed? {cs : List Char} {coefficient places : ℕ}
    (read : readPointed? cs = some (coefficient, places)) :
    ∀ c ∈ cs, c.isDigit = true ∨ c = '.' := by
  -- What is in front of the point are digits, and what is behind is tested to be.
  have whole : ∀ c ∈ cs.takeWhile Char.isDigit, c.isDigit = true ∨ c = '.' :=
    fun c inside => .inl (List.mem_takeWhile_imp inside)
  intro c inside
  rw [← List.takeWhile_append_dropWhile (p := Char.isDigit) (l := cs)] at inside
  rcases List.mem_append.mp inside with front | behind
  · exact whole c front
  · unfold readPointed? at read
    dsimp only at read
    split at read
    · rename_i empty
      rw [empty] at behind
      cases behind
    · rename_i fraction point
      rw [point] at behind
      rw [guard] at read
      split at read
      · rename_i digits
        rcases List.mem_cons.mp behind with rfl | inside
        · exact .inr rfl
        · exact .inl (List.all_eq_true.mp digits c inside)
      · cases read
    · cases read

/-- Text with a letter in it is not read as plain digits. -/
theorem ofText?_of_isAlpha {text : List Char} {c : Char} (inside : c ∈ text)
    (letter : c.isAlpha = true) : ofText? text = none := by
  -- A sign that is split off is no letter.
  have behind : c ∈ (Text.splitSign text).2 := by
    unfold Text.splitSign
    split
    · exact (List.mem_cons.mp inside).resolve_left fun sign => by subst sign; cases letter
    · exact (List.mem_cons.mp inside).resolve_left fun sign => by subst sign; cases letter
    · exact inside
  have unread : readPointed? (Text.splitSign text).2 = none := by
    rw [Option.eq_none_iff_forall_ne_some]
    rintro ⟨coefficient, places⟩ read
    rcases isDigit_of_readPointed? read c behind with digit | rfl
    · exact Bool.false_ne_true ((Text.isAlpha_of_isDigit digit).symm.trans letter)
    · cases letter
  unfold ofText?
  simp only [unread, Option.bind_eq_bind, Option.bind_none]

/-- Plain digits read as the magnitude that they write, rounded to the places that are held. -/
theorem ofText?_writePlain (negative : Bool) (coefficient places : ℕ) :
    (ofText? (Text.withMinus negative (Decimal128.writePlain coefficient places))).map number =
      if HoldsPlaces (coefficient / 10 ^ places) 0 then
        some (signed negative (kept (coefficient / 10 ^ places)))
      else none := by
  -- The sign is split off as it was put on, and the digits are read as they were written.
  have sign : Text.splitSign (Text.withMinus negative (Decimal128.writePlain coefficient places)) =
      (negative, Decimal128.writePlain coefficient places) :=
    Text.splitSign_withMinus negative (isDigit_of_head?_writePlain coefficient places)
  unfold ofText?
  rw [sign]
  simp only [readPointed?_writePlain, Option.bind_eq_bind, Option.bind_some]
  split
  · rename_i holds
    obtain ⟨mantissa, scale, fitted, small, within, value⟩ := fitPlain?_of_holds holds
    rw [fitted, Option.bind_some, ofFields?_number negative small within, value]
  · rename_i crowded
    rw [fitPlain?_of_not_holds crowded]
    rfl

section Exponent

variable {digits : List Char}

/-- Digits end where their exponent begins. -/
theorem span_exponentText (unmarked : 'E' ∉ digits) (tail : List Char) :
    (digits ++ 'E' :: tail).takeWhile (· ≠ 'E') = digits ∧
      (digits ++ 'E' :: tail).dropWhile (· ≠ 'E') = 'E' :: tail := by
  -- No digit is the mark, so the mark is the first character that ends the run.
  have digit : ∀ c ∈ digits, decide (c ≠ 'E') = true := by
    intro c inside
    rw [decide_eq_true_iff]
    rintro rfl
    exact unmarked inside
  exact Text.span_append_cons digit (by simp) tail

/-- Without an exponent there is nothing for the second reader. -/
theorem ofScientificText?_of_unmarked {text : List Char} (unmarked : 'E' ∉ text) :
    ofScientificText? text = none := by
  -- The mark is what the second reader looks for first.
  have none : text.dropWhile (· ≠ 'E') = [] := by
    rw [List.dropWhile_eq_nil_iff]
    intro c inside
    rw [decide_eq_true_iff]
    rintro rfl
    exact unmarked inside
  unfold ofScientificText?
  rw [none]
  cases ofText? (text.takeWhile (· ≠ 'E')) <;> rfl

/-- An exponent moves the point of the digits in front of it. -/
theorem ofScientificText?_exponentText (unmarked : 'E' ∉ digits) (negative : Bool) (shift : ℕ) :
    ofScientificText? (digits ++ Decimal128.exponentText negative shift) =
      (ofText? digits).bind fun base =>
        (if negative then lowerExponent? base.mantissa base.scale shift
          else raiseExponent? base.mantissa base.scale shift).bind fun moved =>
            ofFields? (base.negative && moved.1 != 0) moved.1 moved.2 := by
  -- The text is cut at its mark, and the exponent is read with its sign.
  obtain ⟨front, behind⟩ := span_exponentText unmarked
    ((if negative then '-' else '+') :: Text.numeral shift)
  unfold ofScientificText? Decimal128.exponentText
  rw [front, behind]
  cases negative <;>
    simp only [Text.readNumeral?_numeral, Option.bind_eq_bind, Option.bind_some, if_true,
      Bool.false_eq_true, if_false]

end Exponent

end Text

end Fixed96

open Fixed96 in
/-- The standard library of decimals is lawful. -/
instance : LawfulDecimalLibrary where
  ofText?_plain := ofText?_writePlain
  ofText?_letter := ofText?_of_isAlpha
  ofScientificText?_unmarked := ofScientificText?_of_unmarked
  ofScientificText?_far {digits} unmarked negative shift far := by
    show Fixed96.ofScientificText? _ = none
    rw [ofScientificText?_exponentText unmarked]
    -- Either way of moving the point refuses to move it that far.
    cases Fixed96.ofText? digits with
    | none => rfl
    | some base =>
      cases negative
      · simp only [Option.bind_some, Bool.false_eq_true, if_false, raiseExponent?, if_pos far]
        rfl
      · simp only [Option.bind_some, if_true, lowerExponent?, if_pos far]
        rfl
  ofScientificText?_divides {digits base} read shift near := by
    -- What was read has no mark, as a mark is a letter.
    have unmarked : 'E' ∉ digits := fun inside =>
      nomatch (ofText?_of_isAlpha inside rfl).symm.trans read
    show (Fixed96.ofScientificText? _).map number = _
    obtain ⟨lowered, places, lowering, small, within, value⟩ :=
      lowerExponent?_value base.scale base.mantissa_lt near
    have same : Fixed96.ofText? digits = some base := read
    rw [ofScientificText?_exponentText unmarked, same, Option.bind_some, if_pos rfl, lowering,
      Option.bind_some, ofFields?_number base.negative small within, value, number,
      limited_signed_div base.negative (by positivity) near]
  ofScientificText?_multiplies {digits base} read shift near value whole := by
    have unmarked : 'E' ∉ digits := fun inside =>
      nomatch (ofText?_of_isAlpha inside rfl).symm.trans read
    have same : Fixed96.ofText? digits = some base := read
    -- The integer is the magnitude with its point moved, and the sign stays.
    have signedWhole :
        signed base.negative ((base.mantissa : ℚ) / 10 ^ base.scale * 10 ^ shift) = value := by
      rw [← whole, number]
      cases base.negative
      · rfl
      · exact (neg_mul _ _).symm
    have magnitude : (base.mantissa : ℚ) / 10 ^ base.scale * 10 ^ shift = (value.natAbs : ℕ) := by
      rw [Nat.cast_natAbs, Int.cast_abs, ← signedWhole, abs_signed _ (by positivity)]
    obtain ⟨raised, places, raising, fits, within, moved⟩ :=
      raiseExponent?_value base.mantissa_lt base.scale_le near magnitude
    have bound : |value| < 2 ^ 96 ↔ raised < 2 ^ 96 := by
      rw [Int.abs_eq_natAbs, fits]
      norm_cast
    show (Fixed96.ofScientificText? _).map number = _
    rw [ofScientificText?_exponentText unmarked, same, Option.bind_some,
      if_neg Bool.false_ne_true, raising, Option.bind_some]
    -- The integer is held or not, and so are the digits that are made for it.
    by_cases small : raised < 2 ^ 96
    · rw [ofFields?_number base.negative small within, moved, ← magnitude, signedWhole,
        if_pos (bound.mpr small)]
    · unfold ofFields?
      rw [dif_neg fun bounds => small bounds.1, if_neg (mt bound.mp small)]
      rfl

end BsonTable
