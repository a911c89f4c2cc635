import Mathlib.Algebra.Order.Ring.Rat
import Mathlib.Data.Option.Defs
import Mathlib.Tactic.FieldSimp
import Mathlib.Tactic.Linarith
import Mathlib.Tactic.Ring
import Settlement.Decimal.Basic

/-!
# Decimals of one value

A number can be written with more or fewer fraction digits, and zero with either sign.  How
numbers compare, what they round to and what they add up to only depends on their values.
-/

namespace Settlement

theorem tenTo_add (left right : Nat) : tenTo (left + right) = tenTo left * tenTo right :=
  Nat.pow_add 10 left right

/-! ## Rounded fractions -/

theorem roundHalfEven_mul_right (numerator denominator : Nat) {factor : Nat}
    (positive : 0 < factor) :
    roundHalfEven (numerator * factor) (denominator * factor) =
      roundHalfEven numerator denominator := by
  have above : denominator * factor < 2 * (numerator % denominator * factor) ↔
      denominator < 2 * (numerator % denominator) := by
    rw [← Nat.mul_assoc, Nat.mul_lt_mul_right positive]
  have half : 2 * (numerator % denominator * factor) = denominator * factor ↔
      2 * (numerator % denominator) = denominator := by
    rw [← Nat.mul_assoc, Nat.mul_left_inj positive.ne']
  simp only [roundHalfEven, Nat.mul_div_mul_right _ _ positive, Nat.mul_mod_mul_right, above, half]

/-- Equal fractions are rounded alike. -/
theorem roundHalfEven_eq {numerator denominator numerator' denominator' : Nat}
    (same : numerator * denominator' = numerator' * denominator) (positive : 0 < denominator)
    (positive' : 0 < denominator') :
    roundHalfEven numerator denominator = roundHalfEven numerator' denominator' := by
  rw [← roundHalfEven_mul_right numerator denominator positive', same,
    Nat.mul_comm denominator, roundHalfEven_mul_right numerator' denominator' positive]

/-- A whole number is not changed by rounding. -/
theorem roundHalfEven_whole (whole : Nat) {denominator : Nat} (positive : 0 < denominator) :
    roundHalfEven (whole * denominator) denominator = whole := by
  have same : whole * denominator * 1 = whole * denominator := Nat.mul_one _
  rw [roundHalfEven_eq same positive Nat.one_pos, roundHalfEven_one]

namespace Decimal

variable {left right left' right' number : Decimal}

theorem tenTo_int_pos (exponent : Nat) : (0 : Int) < tenTo exponent :=
  Int.natCast_pos.mpr (tenTo_pos exponent)

theorem tenTo_rat_pos (exponent : Nat) : (0 : Rat) < tenTo exponent :=
  Nat.cast_pos.mpr (tenTo_pos exponent)

theorem value_eq_div (number : Decimal) :
    number.value = (number.units : Rat) / tenTo number.scale :=
  Rat.mkRat_eq_div _ _

theorem units_eq_zero_iff (number : Decimal) : number.units = 0 ↔ number.coefficient = 0 := by
  unfold units
  split <;> omega

theorem units_neg_iff (number : Decimal) :
    number.units < 0 ↔ number.negative = true ∧ number.coefficient ≠ 0 := by
  unfold units
  split <;> simp_all
  omega

theorem natAbs_units (number : Decimal) : number.units.natAbs = number.coefficient := by
  unfold units
  split <;> simp

/-- A whole number, written with its sign apart, has itself as its units. -/
theorem units_of_natAbs {total : Int} {scale : Nat} (fits : total.natAbs < coefficientLimit)
    (short : scale ≤ 28) :
    (Decimal.mk (decide (total < 0)) total.natAbs scale fits short).units = total := by
  simp only [units, decide_eq_true_eq]
  split_ifs <;> omega

/-! ## Comparing -/

theorem sameValue_iff : left.SameValue right ↔ left.value = right.value := by
  rw [value_eq_div, value_eq_div, SameValue,
    div_eq_div_iff (tenTo_rat_pos left.scale).ne' (tenTo_rat_pos right.scale).ne']
  norm_cast

theorem less_iff_value : left.Less right ↔ left.value < right.value := by
  rw [value_eq_div, value_eq_div, Less,
    div_lt_div_iff₀ (tenTo_rat_pos left.scale) (tenTo_rat_pos right.scale)]
  norm_cast

theorem isZero_iff_value (number : Decimal) : number.isZero = true ↔ number.value = 0 := by
  rw [isZero, beq_iff_eq, value_eq_div, div_eq_zero_iff, ← units_eq_zero_iff]
  simp [(tenTo_rat_pos number.scale).ne']

theorem SameValue.refl (number : Decimal) : number.SameValue number := rfl

theorem SameValue.symm (same : left.SameValue right) : right.SameValue left := Eq.symm same

theorem SameValue.less_iff (left_same : left.SameValue left')
    (right_same : right.SameValue right') : left.Less right ↔ left'.Less right' := by
  rw [less_iff_value, less_iff_value, sameValue_iff.mp left_same, sameValue_iff.mp right_same]

/-- Whole numbers over two scales that are the same fraction have the same sign. -/
theorem neg_iff_of_mul_eq {units units' : Int} {scale scale' : Nat}
    (same : units * tenTo scale' = units' * tenTo scale) : units < 0 ↔ units' < 0 := by
  constructor
  · intro below
    have product := Int.mul_neg_of_neg_of_pos below (tenTo_int_pos scale')
    exact Int.neg_of_mul_neg_left (same ▸ product) (tenTo_int_pos scale)
  · intro below
    have product := Int.mul_neg_of_neg_of_pos below (tenTo_int_pos scale)
    exact Int.neg_of_mul_neg_left (same ▸ product) (tenTo_int_pos scale')

/-- Numbers of one value have the same digits, up to zeros at the end. -/
theorem SameValue.coefficients (same : left.SameValue right) :
    left.coefficient * tenTo right.scale = right.coefficient * tenTo left.scale := by
  have magnitudes := congrArg Int.natAbs same
  rwa [Int.natAbs_mul, Int.natAbs_mul, natAbs_units, natAbs_units, Int.natAbs_natCast,
    Int.natAbs_natCast] at magnitudes

theorem SameValue.coefficient_eq_zero_iff (same : left.SameValue right) :
    left.coefficient = 0 ↔ right.coefficient = 0 := by
  have digits := same.coefficients
  have left_pos := tenTo_pos left.scale
  have right_pos := tenTo_pos right.scale
  constructor
  · intro nothing
    rw [nothing, Nat.zero_mul, eq_comm, Nat.mul_eq_zero] at digits
    omega
  · intro nothing
    rw [nothing, Nat.zero_mul, Nat.mul_eq_zero] at digits
    omega

theorem SameValue.isZero_eq (same : left.SameValue right) : left.isZero = right.isZero := by
  rw [isZero, isZero, Bool.eq_iff_iff, beq_iff_eq, beq_iff_eq, same.coefficient_eq_zero_iff]

/-- The sign is part of the value, except for zero. -/
theorem SameValue.negative_iff (same : left.SameValue right) :
    (left.negative = true ∧ left.coefficient ≠ 0) ↔
      (right.negative = true ∧ right.coefficient ≠ 0) := by
  rw [← units_neg_iff, ← units_neg_iff]
  exact neg_iff_of_mul_eq same

/-! ## Rounding -/

/-- What a number rounds to, counted in units of the last place that is kept. -/
def roundedUnits (places : Nat) (number : Decimal) : Int :=
  let rounded := roundHalfEven (number.coefficient * tenTo places) (tenTo number.scale)
  if number.negative = true then -(rounded : Int) else rounded

/-- A rounded number has the units that it rounds to, whatever scale it is written in. -/
theorem units_round (places : Nat) (number : Decimal) :
    (number.round places).units * tenTo places =
      roundedUnits places number * tenTo (number.round places).scale := by
  by_cases short : number.scale ≤ places
  · have places_eq : tenTo places = tenTo (places - number.scale) * tenTo number.scale := by
      rw [← tenTo_add, Nat.sub_add_cancel short]
    have rounded_eq : roundHalfEven (number.coefficient * tenTo places) (tenTo number.scale) =
        number.coefficient * tenTo (places - number.scale) := by
      rw [places_eq, ← Nat.mul_assoc, roundHalfEven_whole _ (tenTo_pos _)]
    rw [round_of_scale_le short, roundedUnits, rounded_eq, places_eq, units]
    split <;> push_cast <;> ring
  · have scale_eq : tenTo number.scale = tenTo (number.scale - places) * tenTo places := by
      rw [← tenTo_add, Nat.sub_add_cancel (by omega)]
    have rounded_eq : roundHalfEven (number.coefficient * tenTo places) (tenTo number.scale) =
        roundHalfEven number.coefficient (tenTo (number.scale - places)) := by
      rw [scale_eq, roundHalfEven_mul_right _ _ (tenTo_pos _)]
    simp only [roundedUnits, rounded_eq, round, short, dite_false, units]
    -- A number that rounds to zero may lose its sign, which does not count then.
    by_cases nothing : roundHalfEven number.coefficient (tenTo (number.scale - places)) = 0
    · simp [nothing]
    · simp [nothing]

theorem SameValue.roundedUnits_eq (same : left.SameValue right) (places : Nat) :
    roundedUnits places left = roundedUnits places right := by
  have fractions : left.coefficient * tenTo places * tenTo right.scale =
      right.coefficient * tenTo places * tenTo left.scale := by
    rw [Nat.mul_right_comm, same.coefficients, Nat.mul_right_comm]
  have sign := same.negative_iff
  have zero_iff := same.coefficient_eq_zero_iff
  rw [roundedUnits, roundedUnits, roundHalfEven_eq fractions (tenTo_pos _) (tenTo_pos _)]
  by_cases nothing : right.coefficient = 0
  · have rounded_eq : roundHalfEven (right.coefficient * tenTo places) (tenTo right.scale) = 0 := by
      rw [nothing, Nat.zero_mul]
      exact Nat.le_zero.mp (roundHalfEven_le 0 _)
    simp [rounded_eq]
  · simp only [ne_eq, zero_iff, nothing, not_false_eq_true, and_true] at sign
    simp only [sign]

/-- Numbers of one value round to numbers of one value. -/
theorem SameValue.round (same : left.SameValue right) (places : Nat) :
    (left.round places).SameValue (right.round places) := by
  have left_units := units_round places left
  have right_units := units_round places right
  have kept := (tenTo_int_pos places).ne'
  rw [same.roundedUnits_eq places] at left_units
  apply Int.eq_of_mul_eq_mul_right kept
  calc
    (left.round places).units * tenTo (right.round places).scale * tenTo places
        = (left.round places).units * tenTo places * tenTo (right.round places).scale := by ring
    _ = (right.round places).units * tenTo places * tenTo (left.round places).scale := by
        rw [left_units, right_units]
        ring
    _ = (right.round places).units * tenTo (left.round places).scale * tenTo places := by ring

/-! ## Sums -/

theorem SameValue.neg (same : left.SameValue right) : left.neg.SameValue right.neg := by
  have units_eq : left.units * tenTo right.scale = right.units * tenTo left.scale := same
  have left_scale : left.neg.scale = left.scale := rfl
  have right_scale : right.neg.scale = right.scale := rfl
  rw [SameValue, units_neg, units_neg, left_scale, right_scale, Int.neg_mul, Int.neg_mul, units_eq]

theorem rel_symm {first second : Option Decimal} (same : Option.Rel SameValue first second) :
    Option.Rel SameValue second first := by
  cases same with
  | some same => exact .some same.symm
  | none => exact .none

/-- A number with a sign, digits and a scale, where it fits. -/
def fit? (negative : Bool) (coefficient scale : Nat) : Option Decimal :=
  if fits : coefficient < coefficientLimit then
    if short : scale ≤ 28 then some ⟨negative, coefficient, scale, fits, short⟩ else none
  else
    none

theorem ofExact?_eq (negative : Bool) (magnitude scale : Nat) :
    ofExact? negative magnitude scale = (List.range (scale + 1)).findSome? fun dropped =>
      fit? negative (roundHalfEven magnitude (tenTo dropped)) (scale - dropped) := by
  rw [ofExact?]
  congr 1
  funext dropped
  dsimp only [fit?]
  by_cases fits : roundHalfEven magnitude (tenTo dropped) < coefficientLimit
  · by_cases short : scale - dropped ≤ 28
    · rw [dif_pos ⟨fits, short⟩, dif_pos fits, dif_pos short]
    · rw [dif_neg fun both => short both.2, dif_pos fits, dif_neg short]
  · rw [dif_neg fun both => fits both.1, dif_neg fits]

theorem fit?_eq_some {negative : Bool} {coefficient scale : Nat}
    (found : fit? negative coefficient scale = some number) :
    number.negative = negative ∧ number.coefficient = coefficient ∧ number.scale = scale := by
  unfold fit? at found
  split_ifs at found
  cases found
  exact ⟨rfl, rfl, rfl⟩

/-- Writing an exact number with more zeros at its end does not change what it is kept as. -/
theorem ofExact?_scaled (negative : Bool) (magnitude extra : Nat) {scale : Nat}
    (short : scale ≤ 28) :
    Option.Rel SameValue (ofExact? negative magnitude scale)
      (ofExact? negative (magnitude * tenTo extra) (scale + extra)) := by
  -- As many digits as there are more zeros are dropped first, then the same ones as before.
  have split : List.range (scale + extra + 1) =
      List.range extra ++ (List.range (scale + 1)).map (extra + ·) := by
    rw [← List.range_add]
    congr 1
    omega
  have rest : ∀ dropped, fit? negative
      (roundHalfEven (magnitude * tenTo extra) (tenTo (extra + dropped)))
        (scale + extra - (extra + dropped)) =
      fit? negative (roundHalfEven magnitude (tenTo dropped)) (scale - dropped) := by
    intro dropped
    have digits : scale + extra - (extra + dropped) = scale - dropped := by omega
    rw [Nat.add_comm extra dropped, tenTo_add, roundHalfEven_mul_right _ _ (tenTo_pos extra),
      Nat.add_comm dropped extra, digits]
  have later := ofExact?_eq negative magnitude scale
  rw [ofExact?_eq negative (magnitude * tenTo extra), split, List.findSome?_append,
    List.findSome?_map]
  simp only [Function.comp_def, rest, ← later]
  cases found : (List.range extra).findSome? fun dropped => fit? negative
      (roundHalfEven (magnitude * tenTo extra) (tenTo dropped)) (scale + extra - dropped) with
  | none =>
      rw [Option.none_or]
      cases ofExact? negative magnitude scale with
      | none => exact .none
      | some number => exact .some (.refl number)
  | some number =>
      obtain ⟨dropped, mem, number_eq⟩ := List.exists_of_findSome?_eq_some found
      have fewer := List.mem_range.mp mem
      have zeros : magnitude * tenTo extra =
          magnitude * tenTo (extra - dropped) * tenTo dropped := by
        rw [Nat.mul_assoc, ← tenTo_add, Nat.sub_add_cancel fewer.le]
      rw [zeros, roundHalfEven_whole _ (tenTo_pos dropped)] at number_eq
      obtain ⟨negative_eq, coefficient_eq, scale_eq⟩ := fit?_eq_some number_eq
      have fits : magnitude < coefficientLimit := by
        refine Nat.lt_of_le_of_lt ?_ number.coefficient_lt
        rw [coefficient_eq]
        exact Nat.le_mul_of_pos_right _ (tenTo_pos _)
      rw [Option.some_or, ofExact?_of_lt fits short]
      refine .some ?_
      have scale_split : scale + extra - dropped = scale + (extra - dropped) := by omega
      rw [SameValue, units, units, negative_eq, coefficient_eq, scale_eq, scale_split, tenTo_add]
      split_ifs <;> push_cast <;> ring

/-- What an exact number is kept as only depends on its value. -/
theorem ofExact?_rel (negative : Bool) {magnitude scale magnitude' scale' : Nat}
    (same : magnitude * tenTo scale' = magnitude' * tenTo scale) (short : scale ≤ 28)
    (short' : scale' ≤ 28) :
    Option.Rel SameValue (ofExact? negative magnitude scale)
      (ofExact? negative magnitude' scale') := by
  rcases Nat.le_total scale scale' with fewer | more
  · obtain ⟨extra, rfl⟩ := Nat.exists_eq_add_of_le fewer
    rw [tenTo_add, Nat.mul_comm (tenTo scale), ← Nat.mul_assoc] at same
    rw [← Nat.eq_of_mul_eq_mul_right (tenTo_pos scale) same]
    exact ofExact?_scaled negative magnitude extra short
  · obtain ⟨extra, rfl⟩ := Nat.exists_eq_add_of_le more
    rw [tenTo_add, Nat.mul_comm (tenTo scale'), ← Nat.mul_assoc] at same
    rw [Nat.eq_of_mul_eq_mul_right (tenTo_pos scale') same]
    exact rel_symm (ofExact?_scaled negative magnitude' extra short')

/-- The sum of two numbers on the grid of both, in its last place. -/
def sumUnits (left right : Decimal) : Int :=
  left.units * tenTo (max left.scale right.scale - left.scale) +
    right.units * tenTo (max left.scale right.scale - right.scale)

/-- More fraction digits do not change the value. -/
theorem units_div_eq (number : Decimal) {scale : Nat} (longer : number.scale ≤ scale) :
    ((number.units * tenTo (scale - number.scale) : Int) : Rat) / tenTo scale = number.value := by
  obtain ⟨extra, rfl⟩ := Nat.exists_eq_add_of_le longer
  have scale_pos := (tenTo_rat_pos number.scale).ne'
  have extra_pos := (tenTo_rat_pos extra).ne'
  rw [value_eq_div, Nat.add_sub_cancel_left, tenTo_add]
  push_cast
  field_simp

theorem sumUnits_div_eq (left right : Decimal) :
    (sumUnits left right : Rat) / tenTo (max left.scale right.scale) =
      left.value + right.value := by
  rw [sumUnits, Int.cast_add, add_div, units_div_eq left (Nat.le_max_left _ _),
    units_div_eq right (Nat.le_max_right _ _)]

/-- Sums of numbers of one value are numbers of one value, or neither exists. -/
theorem SameValue.sum? (left_same : left.SameValue left') (right_same : right.SameValue right') :
    Option.Rel SameValue (left.sum? right) (left'.sum? right') := by
  have short := Nat.max_le.mpr ⟨left.scale_le, right.scale_le⟩
  have short' := Nat.max_le.mpr ⟨left'.scale_le, right'.scale_le⟩
  have same : sumUnits left right * tenTo (max left'.scale right'.scale) =
      sumUnits left' right' * tenTo (max left.scale right.scale) := by
    have values : (sumUnits left right : Rat) / tenTo (max left.scale right.scale) =
        sumUnits left' right' / tenTo (max left'.scale right'.scale) := by
      rw [sumUnits_div_eq, sumUnits_div_eq, sameValue_iff.mp left_same,
        sameValue_iff.mp right_same]
    rw [div_eq_div_iff (tenTo_rat_pos _).ne' (tenTo_rat_pos _).ne'] at values
    exact_mod_cast values
  have magnitudes := congrArg Int.natAbs same
  rw [Int.natAbs_mul, Int.natAbs_mul, Int.natAbs_natCast, Int.natAbs_natCast] at magnitudes
  have sign := neg_iff_of_mul_eq same
  simp only [Decimal.sum?, left_same.coefficient_eq_zero_iff,
    right_same.coefficient_eq_zero_iff]
  split_ifs
  · exact .some right_same
  · exact .some left_same
  · change Option.Rel SameValue
      (ofExact? (decide (sumUnits left right < 0)) (sumUnits left right).natAbs
        (max left.scale right.scale))
      (ofExact? (decide (sumUnits left' right' < 0)) (sumUnits left' right').natAbs
        (max left'.scale right'.scale))
    rw [decide_eq_decide.mpr sign]
    exact ofExact?_rel _ magnitudes short short'

/-- Differences of numbers of one value are numbers of one value, or neither exists. -/
theorem SameValue.difference? (left_same : left.SameValue left')
    (right_same : right.SameValue right') :
    Option.Rel SameValue (left.difference? right) (left'.difference? right') := by
  simp only [Decimal.difference?, left_same.coefficient_eq_zero_iff,
    right_same.coefficient_eq_zero_iff]
  split_ifs
  · exact .some right_same
  · exact left_same.sum? right_same.neg

end Decimal
end Settlement
