import Settlement.Decimal.Text

/-!
# Scientific notation

A decimal, an exponent mark and an exponent, which moves the point.  Where the decimal has the
digits, moving the point keeps all of them; beyond the last place digits are rounded off, and
beyond the largest number there is none.
-/

namespace Settlement

/-- The whole number nearest to a quotient; a half goes up. -/
def roundHalfUp (numerator denominator : Nat) : Nat :=
  (numerator + denominator / 2) / denominator

/-- Rounding a quotient up never leads above the numerator. -/
theorem roundHalfUp_le (numerator denominator : Nat) :
    roundHalfUp numerator denominator ≤ numerator := by
  rcases Nat.eq_zero_or_pos denominator with rfl | positive
  · simp [roundHalfUp]
  · rcases Nat.eq_zero_or_pos numerator with rfl | some_units
    · simp [roundHalfUp, Nat.div_eq_of_lt (Nat.div_lt_self positive (by decide : 1 < 2))]
    · refine Nat.div_le_of_le_mul ?_
      have := Nat.mul_le_mul_left (denominator - 1) some_units
      have : denominator * numerator = (denominator - 1) * numerator + numerator := by
        rw [Nat.sub_mul, Nat.one_mul, Nat.sub_add_cancel (Nat.le_mul_of_pos_left _ positive)]
      omega

namespace Decimal

/-- The exponent behind its mark, apart from its minus sign: an optional minus sign, an optional
plus sign and at least one digit. -/
def exponent? (chars : List Char) : Option (Bool × Nat) :=
  let (negative, size) := match chars with
    | '-' :: size => (true, size)
    | size => (false, size)
  let digits := match size with
    | '+' :: digits => digits
    | digits => digits
  if digits = [] then none else (ofDigits? 10 digits).map fun exponent => (negative, exponent)

/-- Moves the point to the left, by at most 28 places.  Digits beyond place 28 are rounded off,
from five on upwards; what rounds to zero keeps its sign. -/
def pointLeft? (places : Nat) (number : Decimal) : Option Decimal :=
  if 28 < places then
    none
  else
    let dropped := number.scale + places - 28
    some
      { negative := number.negative
        coefficient := roundHalfUp number.coefficient (tenTo dropped)
        scale := number.scale + places - dropped
        coefficient_lt := Nat.lt_of_le_of_lt (roundHalfUp_le _ _) number.coefficient_lt
        scale_le := by omega }

/-- Moves the point to the right.  Behind the last digit it takes zeros along, by at most 28
places in all. -/
def pointRight? (places : Nat) (number : Decimal) : Option Decimal :=
  if places ≤ number.scale then
    some { number with
      scale := number.scale - places
      scale_le := Nat.le_trans (Nat.sub_le _ _) number.scale_le }
  else if 28 < places then
    none
  else
    ofCoefficient? number.negative (number.coefficient * tenTo (places - number.scale)) 0

/-- Reads a decimal with an exponent. -/
def ofScientific? (text : String) : Option Decimal := do
  let (before, behind) := splitExponent text.toList
  let (negative, places) ← exponent? (← behind)
  let number ← ofChars? before
  if negative then number.pointLeft? places else number.pointRight? places

end Decimal
end Settlement
