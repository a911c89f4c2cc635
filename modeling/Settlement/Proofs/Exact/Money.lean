import Settlement.Money
import Settlement.Proofs.Values.Decimal

/-!
# Money in whole ticks

A tick is a ten-thousandth of a unit of money.  An amount with at most four fraction digits is a
whole number of ticks, and as long as results stay below the limit of the decimals its sums,
differences and comparisons are those of whole numbers: nothing is rounded and nothing overflows.
-/

namespace Settlement

namespace Decimal

/-- The number has at most as many fraction digits as money keeps. -/
def OnGrid (number : Decimal) : Prop := number.scale ≤ Money.places

/-- How many ticks a number on the grid is. -/
def ticks (number : Decimal) : Int := number.units * tenTo (Money.places - number.scale)

/-- The value of a number on the grid is its ticks, divided by ten thousand. -/
theorem value_eq_ticks {number : Decimal} (grid : number.OnGrid) :
    number.value = (number.ticks : Rat) / tenTo Money.places :=
  (units_div_eq number grid).symm

theorem ticks_eq_zero_iff (number : Decimal) : number.ticks = 0 ↔ number.coefficient = 0 := by
  rw [ticks, Int.mul_eq_zero, units_eq_zero_iff]
  have := tenTo_int_pos (Money.places - number.scale)
  omega

theorem ticks_neg_iff (number : Decimal) :
    number.ticks < 0 ↔ number.negative = true ∧ number.coefficient ≠ 0 := by
  have positive := tenTo_int_pos (Money.places - number.scale)
  rw [← units_neg_iff, ticks]
  constructor
  · intro below
    exact Int.neg_of_mul_neg_left below positive
  · intro below
    exact Int.mul_neg_of_neg_of_pos below positive

@[simp]
theorem ticks_neg (number : Decimal) : number.neg.ticks = -number.ticks := by
  have scale_eq : number.neg.scale = number.scale := rfl
  rw [ticks, ticks, units_neg, scale_eq, Int.neg_mul]

theorem onGrid_neg {number : Decimal} (grid : number.OnGrid) : number.neg.OnGrid := grid

@[simp]
theorem ticks_zero : Decimal.zero.ticks = 0 := by decide

theorem onGrid_zero : Decimal.zero.OnGrid := Nat.zero_le _

/-- Taking more fraction digits into account multiplies the units. -/
theorem ticks_eq_mul {number : Decimal} {scale : Nat} (fits : number.scale ≤ scale)
    (grid : scale ≤ Money.places) :
    number.ticks = number.units * tenTo (scale - number.scale) * tenTo (Money.places - scale) := by
  have split : Money.places - number.scale =
      (scale - number.scale) + (Money.places - scale) := by omega
  rw [ticks, split, tenTo_add]
  push_cast
  ring

/-- Numbers on the grid are ordered as their ticks. -/
theorem less_iff_ticks {left right : Decimal} (left_grid : left.OnGrid)
    (right_grid : right.OnGrid) : left.Less right ↔ left.ticks < right.ticks := by
  have left_value := value_eq_ticks left_grid
  have right_value := value_eq_ticks right_grid
  have places_pos : (0 : Rat) < tenTo Money.places := by exact_mod_cast tenTo_pos Money.places
  rw [less_iff_value, left_value, right_value, div_lt_div_iff_of_pos_right places_pos]
  norm_cast

/-- The scale at which a sum or difference of two numbers loses no digit: that of the number with
more digits, unless a number that is zero lends none. -/
def FullScale (left right number : Decimal) : Prop :=
  left.coefficient ≠ 0 → right.coefficient ≠ 0 → number.scale = max left.scale right.scale

/-- A sum that stays below the limit is exact. -/
theorem sum?_exact {left right : Decimal} (left_grid : left.OnGrid) (right_grid : right.OnGrid)
    (small : (left.ticks + right.ticks).natAbs < coefficientLimit) :
    ∃ sum, left.sum? right = some sum ∧ sum.OnGrid ∧ sum.ticks = left.ticks + right.ticks ∧
      FullScale left right sum := by
  unfold sum?
  split_ifs with left_zero right_zero
  · refine ⟨right, rfl, right_grid, ?_, fun left_nonzero => (left_nonzero left_zero).elim⟩
    rw [(ticks_eq_zero_iff left).mpr left_zero, Int.zero_add]
  · refine ⟨left, rfl, left_grid, ?_, fun _ right_nonzero => (right_nonzero right_zero).elim⟩
    rw [(ticks_eq_zero_iff right).mpr right_zero, Int.add_zero]
  · set scale := max left.scale right.scale with scale_eq
    set total := left.units * (tenTo (scale - left.scale) : Int) +
      right.units * tenTo (scale - right.scale) with total_eq
    have grid : scale ≤ Money.places := Nat.max_le.mpr ⟨left_grid, right_grid⟩
    have total_ticks : total * tenTo (Money.places - scale) = left.ticks + right.ticks := by
      rw [ticks_eq_mul (Nat.le_max_left _ _) grid, ticks_eq_mul (Nat.le_max_right _ _) grid,
        ← Int.add_mul]
    have fits : total.natAbs < coefficientLimit := by
      refine Nat.lt_of_le_of_lt ?_ small
      rw [← total_ticks, Int.natAbs_mul, Int.natAbs_natCast]
      exact Nat.le_mul_of_pos_right _ (tenTo_pos _)
    refine ⟨_, ofExact?_of_lt fits (grid.trans (by decide)), grid, ?_, fun _ _ => rfl⟩
    rw [ticks, units_of_natAbs fits]
    exact total_ticks

/-- A difference that stays below the limit is exact. -/
theorem difference?_exact {left right : Decimal} (left_grid : left.OnGrid)
    (right_grid : right.OnGrid) (small : (left.ticks - right.ticks).natAbs < coefficientLimit) :
    ∃ difference, left.difference? right = some difference ∧ difference.OnGrid ∧
      difference.ticks = left.ticks - right.ticks ∧ FullScale left right difference := by
  unfold difference?
  split_ifs with both_zero
  · refine ⟨right, rfl, right_grid, ?_, fun nonzero => (nonzero both_zero.1).elim⟩
    rw [(ticks_eq_zero_iff left).mpr both_zero.1, (ticks_eq_zero_iff right).mpr both_zero.2,
      Int.sub_zero]
  · have opposite := sum?_exact left_grid (onGrid_neg right_grid) (by
      rwa [ticks_neg, ← Int.sub_eq_add_neg])
    rwa [ticks_neg, ← Int.sub_eq_add_neg] at opposite

end Decimal

namespace Money

/-- An amount in a currency with at most four fraction digits. -/
structure Exact (currency : Currency) (money : Money) : Prop where
  /-- The amount counts the currency. -/
  currency_eq : money.currency = currency
  /-- It has no more fraction digits than money keeps. -/
  grid : money.amount.OnGrid

/-- How many ticks an exact amount is. -/
def ticks (money : Money) : Int := money.amount.ticks

/-- A computation gives an exact amount with some number of ticks. -/
def Gives (currency : Currency) (ticks : Int) (computed : Except Fault Money) : Prop :=
  ∃ money, computed = .ok money ∧ money.Exact currency ∧ money.ticks = ticks

theorem of_eq {amount : Decimal} (grid : amount.OnGrid) (currency : Currency) :
    of amount currency = ⟨amount, currency⟩ := by
  rw [of, Decimal.round_of_scale_le grid]

theorem exact_zero (currency : Currency) : (zero currency).Exact currency :=
  ⟨rfl, Decimal.onGrid_zero⟩

@[simp]
theorem ticks_zero (currency : Currency) : (zero currency).ticks = 0 := Decimal.ticks_zero

theorem neg_eq {currency : Currency} {money : Money} (exact : money.Exact currency) :
    money.neg = ⟨money.amount.neg, money.currency⟩ :=
  of_eq (Decimal.onGrid_neg exact.grid) money.currency

theorem Exact.neg {currency : Currency} {money : Money} (exact : money.Exact currency) :
    money.neg.Exact currency := by
  rw [neg_eq exact]
  exact ⟨exact.currency_eq, Decimal.onGrid_neg exact.grid⟩

theorem ticks_neg {currency : Currency} {money : Money} (exact : money.Exact currency) :
    money.neg.ticks = -money.ticks := by
  rw [neg_eq exact]
  exact Decimal.ticks_neg money.amount

theorem isZero_iff (money : Money) : money.isZero = true ↔ money.ticks = 0 := by
  rw [isZero, Decimal.isZero, beq_iff_eq, ticks, Decimal.ticks_eq_zero_iff]

theorem isNegative_iff (money : Money) : money.isNegative = true ↔ money.ticks < 0 := by
  rw [isNegative, isZero, Decimal.isZero, ticks, Decimal.ticks_neg_iff]
  simp

theorem isPositive_iff (money : Money) : money.isPositive = true ↔ 0 < money.ticks := by
  have zero_iff := Decimal.ticks_eq_zero_iff money.amount
  have below_iff := Decimal.ticks_neg_iff money.amount
  rw [isPositive, isZero, Decimal.isZero, ticks]
  cases sign : money.amount.negative <;> simp [sign] at * <;> omega

/-- A sum of exact amounts that stays below the limit is exact. -/
theorem add_gives {currency : Currency} {left right : Money} (left_exact : left.Exact currency)
    (right_exact : right.Exact currency)
    (small : (left.ticks + right.ticks).natAbs < coefficientLimit) :
    Gives currency (left.ticks + right.ticks) (left.add right) := by
  obtain ⟨sum, sum_eq, grid, ticks_eq, -⟩ :=
    Decimal.sum?_exact left_exact.grid right_exact.grid small
  have same : left.currency = right.currency :=
    left_exact.currency_eq.trans right_exact.currency_eq.symm
  exact ⟨⟨sum, left.currency⟩, add_eq_ok.mpr ⟨same, sum, sum_eq, of_eq grid _⟩,
    ⟨left_exact.currency_eq, grid⟩, ticks_eq⟩

/-- A difference of exact amounts that stays below the limit is exact. -/
theorem sub_gives {currency : Currency} {left right : Money} (left_exact : left.Exact currency)
    (right_exact : right.Exact currency)
    (small : (left.ticks - right.ticks).natAbs < coefficientLimit) :
    Gives currency (left.ticks - right.ticks) (left.sub right) := by
  obtain ⟨difference, difference_eq, grid, ticks_eq, -⟩ :=
    Decimal.difference?_exact left_exact.grid right_exact.grid small
  have same : left.currency = right.currency :=
    left_exact.currency_eq.trans right_exact.currency_eq.symm
  exact ⟨⟨difference, left.currency⟩, sub_eq_ok.mpr ⟨same, difference, difference_eq, of_eq grid _⟩,
    ⟨left_exact.currency_eq, grid⟩, ticks_eq⟩

theorem min_gives {currency : Currency} {left right : Money} (left_exact : left.Exact currency)
    (right_exact : right.Exact currency) :
    Gives currency (Min.min left.ticks right.ticks) (left.min right) := by
  have same : left.currency = right.currency :=
    left_exact.currency_eq.trans right_exact.currency_eq.symm
  have order := Decimal.less_iff_ticks right_exact.grid left_exact.grid
  simp only [min, same, ne_eq, not_true_eq_false, if_false]
  split_ifs with less
  · exact ⟨right, rfl, right_exact, (Int.min_eq_right (order.mp less).le).symm⟩
  · exact ⟨left, rfl, left_exact, (Int.min_eq_left (Int.not_lt.mp (less ∘ order.mpr))).symm⟩

theorem max_gives {currency : Currency} {left right : Money} (left_exact : left.Exact currency)
    (right_exact : right.Exact currency) :
    Gives currency (Max.max left.ticks right.ticks) (left.max right) := by
  have same : left.currency = right.currency :=
    left_exact.currency_eq.trans right_exact.currency_eq.symm
  have order := Decimal.less_iff_ticks left_exact.grid right_exact.grid
  simp only [max, same, ne_eq, not_true_eq_false, if_false]
  split_ifs with less
  · exact ⟨right, rfl, right_exact, (Int.max_eq_right (order.mp less).le).symm⟩
  · exact ⟨left, rfl, left_exact, (Int.max_eq_left (Int.not_lt.mp (less ∘ order.mpr))).symm⟩

/-- The value of an exact amount is its ticks, divided by ten thousand. -/
theorem Exact.value_eq {currency : Currency} {money : Money} (exact : money.Exact currency) :
    money.amount.value = (money.ticks : Rat) / tenTo places :=
  Decimal.value_eq_ticks exact.grid

end Money
end Settlement
