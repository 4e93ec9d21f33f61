import BsonTable.Number.Fixed96
import BsonTable.Number.Literal

/-! Fixed-point decimals read from text and from doubles. -/

namespace BsonTable

namespace Fixed96

/-- The most places, not above a limit, at which the mantissa still fits into 96 bits. -/
def widestScale? (coefficient places : Nat) : Nat → Option Nat
  | 0 => if coefficient / Nat.pow 10 places < Nat.pow 2 96 then some 0 else none
  -- The first limit that leaves room is the greatest one.
  | limit + 1 =>
    if coefficient / Nat.pow 10 (places - (limit + 1)) < Nat.pow 2 96 then some (limit + 1)
    else widestScale? coefficient places limit

/-- The mantissa and scale of plainly written digits, rounded at the first digit without room. -/
def fitPlain? (coefficient places : Nat) : Option (Nat × Nat) := do
  let scale ← widestScale? coefficient places (min places 28)
  -- Nothing is rounded away where every place has room.
  if scale = places then return (coefficient, scale)
  let kept := coefficient / Nat.pow 10 (places - scale)
  let next := coefficient / Nat.pow 10 (places - scale - 1) % 10
  if next < 5 then return (kept, scale)
  if kept + 1 < Nat.pow 2 96 then return (kept + 1, scale)
  -- Rounding up left no room, so the last kept digit is given up as well.
  if scale = 0 then none
  return ((kept + 1 + 4) / 10, scale - 1)

/-- The number that plain text writes, with an optional sign; a zero has none. -/
def ofText? (cs : List Char) : Option Fixed96 := do
  let (negative, cs) := Text.splitSign cs
  let (coefficient, places) ← readPointed? cs
  let (mantissa, scale) ← fitPlain? coefficient places
  ofFields? (negative && mantissa != 0) mantissa scale

/-- The quotient by a power of ten, a half rounding away from zero. -/
def dropPlaces (mantissa places : Nat) : Nat :=
  (mantissa + Nat.pow 10 places / 2) / Nat.pow 10 places

/-- Divide by a power of ten of at most twenty-eight, giving up places beyond the limit. -/
def lowerExponent? (mantissa scale shift : Nat) : Option (Nat × Nat) :=
  if 28 < shift then none
  -- With room behind the point the digits stay as they are.
  else if scale + shift ≤ 28 then some (mantissa, scale + shift)
  else some (dropPlaces mantissa (scale - (28 - shift)), 28)

/-- Multiply by a power of ten of at most twenty-eight, as long as the result fits. -/
def raiseExponent? (mantissa scale shift : Nat) : Option (Nat × Nat) :=
  if 28 < shift then none
  -- As long as there are places, the point moves and the digits stay.
  else if shift ≤ scale then some (mantissa, scale - shift)
  else if mantissa = 0 then some (0, 0)
  else some (mantissa * Nat.pow 10 (shift - scale), 0)

/-- The number that text with an exponent writes: that of the digits in front, moved by tens. -/
def ofScientificText? (cs : List Char) : Option Fixed96 := do
  let base ← ofText? (cs.takeWhile (· ≠ 'E'))
  let (mantissa, scale) ← match cs.dropWhile (· ≠ 'E') with
    | [] => none
    | _ :: '-' :: digits => do lowerExponent? base.mantissa base.scale (← Text.readNumeral? digits)
    | _ :: '+' :: digits | _ :: digits => do
      raiseExponent? base.mantissa base.scale (← Text.readNumeral? digits)
  -- Moving the point may leave nothing of the number, and then the sign goes as well.
  ofFields? (base.negative && mantissa != 0) mantissa scale

/-! Reading doubles: powers of two are traded for powers of ten inside 96 bits. -/

/-- Trade factors of one half for factors of one tenth, dropping a low bit when room runs out. -/
def tradeHalves : Nat → Nat → Int → Nat × Int
  | 0, mantissa, tens => (mantissa, tens)
  | halves + 1, mantissa, tens =>
    -- Half of an even number is whole, which costs nothing.
    if mantissa % 2 = 0 then tradeHalves halves (mantissa / 2) (tens + 1)
    else if 5 * mantissa < Nat.pow 2 96 then tradeHalves halves (5 * mantissa) tens
    else tradeHalves halves (mantissa / 2) (tens + 1)

/-- Trade factors of one fifth beside a power of ten, giving up when the tens can no longer pay. -/
def tradeFifths : Nat → Nat → Int → Option (Nat × Int)
  | 0, mantissa, tens => some (mantissa, tens)
  | fifths + 1, mantissa, tens =>
    if mantissa < Nat.pow 2 95 then tradeFifths fifths (2 * mantissa) (tens - 1)
    -- A fifth that is dropped has to be made up for by tens that are left.
    else if (fifths : Int) + 1 < 2 * tens then none
    else tradeFifths fifths (mantissa / 5) tens

/-- Multiply by a power of ten inside 96 bits. -/
def multiplyTens? : Nat → Nat → Option Nat
  | 0, mantissa => some mantissa
  | tens + 1, mantissa =>
    if 10 * mantissa < Nat.pow 2 96 then multiplyTens? tens (10 * mantissa) else none

/-- Bring the decimal places down to twenty-eight, rounding at each step. -/
def limitPlaces (mantissa places : Nat) : Nat × Nat :=
  if places ≤ 28 then (mantissa, places)
  -- Rounding has used up all the digits, and then the places are gone as well.
  else if mantissa / 10 = 0 then (0, 0)
  else
    limitPlaces (mantissa / 10 + (if 5 ≤ mantissa % 10 then 1 else 0)) (places - 1)
termination_by places

/-- Drop decimal places, rounding at each step, until the mantissa is within 52 bits. -/
def limitDigits (mantissa : Nat) : Nat → Nat × Nat
  | 0 => (mantissa, 0)
  | places + 1 =>
    if mantissa < Nat.pow 2 52 then (mantissa, places + 1)
    else limitDigits (mantissa / 10 + (if 5 ≤ mantissa % 10 then 1 else 0)) places

/-- Take trailing zeros off the decimal places. -/
def dropZeroPlaces (mantissa : Nat) : Nat → Nat × Nat
  | 0 => (mantissa, 0)
  | scale + 1 =>
    if mantissa % 10 = 0 then dropZeroPlaces (mantissa / 10) scale else (mantissa, scale + 1)

/-- A double keeps about as many decimal digits as its significand holds. -/
def ofBinary64? (x : Binary64) : Option Fixed96 := do
  match x.datum with
  | .nan | .infinite _ => none
  | .finite negative significand exponent =>
    -- First the power of two is traded away, then the places are brought within bounds.
    let (mantissa, tens) := tradeHalves (-exponent).toNat significand exponent
    let (mantissa, tens) ← tradeFifths exponent.toNat mantissa tens
    let mantissa ← multiplyTens? tens.toNat mantissa
    let (mantissa, places) := limitPlaces mantissa (-tens).toNat
    let (mantissa, places) := limitDigits mantissa places
    let (mantissa, places) := dropZeroPlaces mantissa places
    ofFields? negative mantissa places

end Fixed96

end BsonTable
