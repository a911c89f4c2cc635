/-!
# Decimal numbers of bounded size

A decimal is a sign, a whole coefficient of at most ninety-six bits and a count of at most 28
fraction digits.  The count and the sign of zero are part of the number as it is written, but not
of its value, so equality by value (`SameValue`) is kept apart from equality.  Sums are exact
while the coefficient fits; beyond that they give up as few fraction digits as they can, rounding
the exact sum once, and a sum that does not fit without any fraction digit does not exist.
-/

namespace Settlement

/-- A power of ten. -/
def tenTo (exponent : Nat) : Nat := Nat.pow 10 exponent

@[simp]
theorem tenTo_zero : tenTo 0 = 1 := rfl

theorem tenTo_pos (exponent : Nat) : 0 < tenTo exponent := Nat.pow_pos (by decide)

/-- Coefficients are below this limit, the ninety-sixth power of two. -/
def coefficientLimit : Nat := 0x1000000000000000000000000

/-- A signed decimal number as it is written. -/
structure Decimal where
  /-- Whether a minus sign is written, which zero may carry too. -/
  negative : Bool
  /-- The digits without the point. -/
  coefficient : Nat
  /-- How many of the digits stand behind the point. -/
  scale : Nat
  /-- The coefficient fits ninety-six bits. -/
  coefficient_lt : coefficient < coefficientLimit
  /-- At most 28 digits stand behind the point. -/
  scale_le : scale ≤ 28
  deriving DecidableEq, Repr

/-- The whole number nearest to a quotient; a half goes to the even neighbour. -/
def roundHalfEven (numerator denominator : Nat) : Nat :=
  let quotient := numerator / denominator
  let rest := numerator % denominator
  if denominator < 2 * rest ∨ (2 * rest = denominator ∧ quotient % 2 = 1) then
    quotient + 1
  else
    quotient

/-- Rounding a quotient never leads above the numerator. -/
theorem roundHalfEven_le (numerator denominator : Nat) :
    roundHalfEven numerator denominator ≤ numerator := by
  have division := Nat.div_add_mod numerator denominator
  simp only [roundHalfEven]
  split
  · rename_i up
    rcases Nat.eq_zero_or_pos denominator with rfl | positive
    · simp at up ⊢
      omega
    · have := Nat.le_mul_of_pos_left (numerator / denominator) positive
      omega
  · exact Nat.div_le_self _ _

@[simp]
theorem roundHalfEven_one (numerator : Nat) : roundHalfEven numerator 1 = numerator := by
  simp [roundHalfEven, Nat.mod_one]

namespace Decimal

/-- The coefficient with its sign. -/
def units (number : Decimal) : Int :=
  if number.negative then -(number.coefficient : Int) else number.coefficient

/-- The rational number that a decimal stands for. -/
def value (number : Decimal) : Rat :=
  mkRat number.units (tenTo number.scale)

/-- Two decimals have one value when their units agree on the common grid. -/
def SameValue (left right : Decimal) : Prop :=
  left.units * tenTo right.scale = right.units * tenTo left.scale

instance (left right : Decimal) : Decidable (SameValue left right) :=
  inferInstanceAs (Decidable (_ = _))

/-- Order by value. -/
def Less (left right : Decimal) : Prop :=
  left.units * tenTo right.scale < right.units * tenTo left.scale

instance (left right : Decimal) : Decidable (Less left right) :=
  inferInstanceAs (Decidable (_ < _))

/-- A number without fraction digits. -/
def ofWhole (negative : Bool) (coefficient : Nat) (fits : coefficient < coefficientLimit) :
    Decimal :=
  ⟨negative, coefficient, 0, fits, by decide⟩

/-- Zero with no fraction digits and no sign. -/
def zero : Decimal := ofWhole false 0 (by decide)

/-- Zero, whatever its scale and sign. -/
def isZero (number : Decimal) : Bool := number.coefficient == 0

/-- The number with the other sign; zero turns its sign too. -/
def neg (number : Decimal) : Decimal := { number with negative := !number.negative }

/-- The number without its sign. -/
def abs (number : Decimal) : Decimal := { number with negative := false }

@[simp]
theorem units_neg (number : Decimal) : number.neg.units = -number.units := by
  cases negative : number.negative <;> simp [neg, units, negative]

@[simp]
theorem neg_neg (number : Decimal) : number.neg.neg = number := by
  simp [neg]

/-- A whole number, where it fits. -/
def ofInt? (number : Int) : Option Decimal :=
  if fits : number.natAbs < coefficientLimit then
    some (ofWhole (decide (number < 0)) number.natAbs fits)
  else
    none

/-- A number with at most `places` fraction digits: shorter ones stay as they are, longer ones
go to the nearest neighbour, a half to the even one.  A number that rounds to zero loses its
sign; a zero that is merely shortened keeps it. -/
def round (places : Nat) (number : Decimal) : Decimal :=
  if short : number.scale ≤ places then
    number
  else
    let rounded := roundHalfEven number.coefficient (tenTo (number.scale - places))
    { negative := number.negative && (number.coefficient == 0 || rounded != 0)
      coefficient := rounded
      scale := places
      coefficient_lt := Nat.lt_of_le_of_lt (roundHalfEven_le _ _) number.coefficient_lt
      scale_le := by have := number.scale_le; omega }

theorem round_of_scale_le {places : Nat} {number : Decimal} (short : number.scale ≤ places) :
    number.round places = number := by
  simp [round, short]

theorem scale_round_le (places : Nat) (number : Decimal) :
    (number.round places).scale ≤ places := by
  unfold round
  split
  · assumption
  · exact Nat.le_refl _

/-- The exact number `± magnitude / 10 ^ scale`, with as many of its fraction digits as fit. -/
def ofExact? (negative : Bool) (magnitude scale : Nat) : Option Decimal :=
  (List.range (scale + 1)).findSome? fun dropped =>
    let rounded := roundHalfEven magnitude (tenTo dropped)
    if fits : rounded < coefficientLimit ∧ scale - dropped ≤ 28 then
      some ⟨negative, rounded, scale - dropped, fits.1, fits.2⟩
    else
      none

/-- A number that fits as it is keeps all its digits. -/
theorem ofExact?_of_lt {negative : Bool} {magnitude scale : Nat}
    (fits : magnitude < coefficientLimit) (short : scale ≤ 28) :
    ofExact? negative magnitude scale = some ⟨negative, magnitude, scale, fits, short⟩ := by
  rw [ofExact?, List.range_succ_eq_map, List.findSome?_cons]
  simp only [tenTo_zero, roundHalfEven_one, Nat.sub_zero, and_self, fits, short, dite_true]

/-- The sum of two numbers.  A zero summand leaves the other one as it is written; otherwise the
sum is exact at the larger scale of the two, or as near to it as fits. -/
def sum? (left right : Decimal) : Option Decimal :=
  if left.coefficient = 0 then
    some right
  else if right.coefficient = 0 then
    some left
  else
    let scale := max left.scale right.scale
    let total := left.units * tenTo (scale - left.scale) + right.units * tenTo (scale - right.scale)
    ofExact? (decide (total < 0)) total.natAbs scale

/-- The difference of two numbers: the sum with the opposite, except that zero taken from zero
is written as the zero that was taken. -/
def difference? (left right : Decimal) : Option Decimal :=
  if left.coefficient = 0 ∧ right.coefficient = 0 then
    some right
  else
    left.sum? right.neg

end Decimal

end Settlement
