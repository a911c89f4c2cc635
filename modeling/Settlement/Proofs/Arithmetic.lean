import Mathlib.Algebra.Order.Field.Basic
import Settlement.Proofs.Exact.Parts
import Settlement.Proofs.Values.Amounts

/-!
# Exact arithmetic

Sums and differences of money with at most four fraction digits are those of rational numbers, as
long as they are in the range in which a decimal has four fraction digits: neither the rounding of
money nor the decimals take a digit away.  So the laws of addition hold by value, for money and part
by part for amounts, and the total of amounts is additive and does not change when parts move.
-/

namespace Settlement

/-- Both computations come to an end, and with values that are alike. -/
def Concur {α : Type} (alike : α → α → Prop) (first second : Except Fault α) : Prop :=
  ∃ left right, first = .ok left ∧ second = .ok right ∧ alike left right

namespace Money

/-! ## Values in range -/

/-- How many units of its currency money is. -/
def value (money : Money) : Rat := money.amount.value

/-- A number in the range in which a decimal has four fraction digits. -/
def InRange (value : Rat) : Prop := |value| < 2 ^ 96 / 10 ^ 4

theorem inRange_ticks_iff (ticks : Int) :
    InRange ((ticks : Rat) / tenTo places) ↔ ticks.natAbs < coefficientLimit := by
  have scale_eq : ((tenTo places : Nat) : Rat) = 10 ^ 4 := by norm_num [tenTo, places]
  have limit_eq : coefficientLimit = 2 ^ 96 := by norm_num [coefficientLimit]
  rw [InRange, scale_eq, limit_eq, abs_div, abs_of_pos (show (0 : Rat) < 10 ^ 4 by norm_num),
    div_lt_div_iff_of_pos_right (by norm_num), ← Int.cast_abs, Int.abs_eq_natAbs]
  norm_cast

/-- A number in range that is so many ticks has a coefficient for them. -/
theorem InRange.small {value : Rat} {ticks : Int} (range : InRange value)
    (ticks_eq : value = (ticks : Rat) / tenTo places) : ticks.natAbs < coefficientLimit := by
  rwa [ticks_eq, inRange_ticks_iff] at range

variable {currency : Currency} {first second third left right : Money}

theorem value_add (left_exact : left.Exact currency) (right_exact : right.Exact currency) :
    left.value + right.value = ((left.ticks + right.ticks : Int) : Rat) / tenTo places := by
  rw [value, value, left_exact.value_eq, right_exact.value_eq, ← add_div, Int.cast_add]

theorem value_sub (left_exact : left.Exact currency) (right_exact : right.Exact currency) :
    left.value - right.value = ((left.ticks - right.ticks : Int) : Rat) / tenTo places := by
  rw [value, value, left_exact.value_eq, right_exact.value_eq, ← sub_div, Int.cast_sub]

theorem value_add_add (first_exact : first.Exact currency) (second_exact : second.Exact currency)
    (third_exact : third.Exact currency) :
    first.value + second.value + third.value =
      ((first.ticks + second.ticks + third.ticks : Int) : Rat) / tenTo places := by
  rw [value_add first_exact second_exact, value, third_exact.value_eq, ← add_div, ← Int.cast_add]

/-! ## Exact results -/

/-- Money that is the exact result of combining two amounts. -/
structure IsExactly (left right : Money) (combined : Option Decimal) (value : Rat)
    (result : Money) : Prop where
  currency_eq : result.currency = left.currency
  value_eq : result.value = value
  scale_le : result.amount.scale ≤ places
  /-- Rounding has nothing to take away. -/
  unrounded : combined = some result.amount
  /-- The decimals give up no digit. -/
  fullScale : Decimal.FullScale left.amount right.amount result.amount

theorem add_isExactly (left_exact : left.Exact currency) (right_exact : right.Exact currency)
    (range : InRange (left.value + right.value)) :
    ∃ sum, left.add right = .ok sum ∧
      IsExactly left right (left.amount.sum? right.amount) (left.value + right.value) sum := by
  have value_eq := value_add left_exact right_exact
  obtain ⟨sum, sum_eq, grid, ticks_eq, full⟩ :=
    Decimal.sum?_exact left_exact.grid right_exact.grid (range.small value_eq)
  have same : left.currency = right.currency :=
    left_exact.currency_eq.trans right_exact.currency_eq.symm
  refine ⟨⟨sum, left.currency⟩, add_eq_ok.mpr ⟨same, sum, sum_eq, of_eq grid _⟩, rfl, ?_, grid,
    sum_eq, full⟩
  rw [value_eq, value, Decimal.value_eq_ticks grid, ticks_eq]
  rfl

theorem sub_isExactly (left_exact : left.Exact currency) (right_exact : right.Exact currency)
    (range : InRange (left.value - right.value)) :
    ∃ difference, left.sub right = .ok difference ∧
      IsExactly left right (left.amount.difference? right.amount) (left.value - right.value)
        difference := by
  have value_eq := value_sub left_exact right_exact
  obtain ⟨difference, difference_eq, grid, ticks_eq, full⟩ :=
    Decimal.difference?_exact left_exact.grid right_exact.grid (range.small value_eq)
  have same : left.currency = right.currency :=
    left_exact.currency_eq.trans right_exact.currency_eq.symm
  refine ⟨⟨difference, left.currency⟩,
    sub_eq_ok.mpr ⟨same, difference, difference_eq, of_eq grid _⟩, rfl, ?_, grid,
    difference_eq, full⟩
  rw [value_eq, value, Decimal.value_eq_ticks grid, ticks_eq]
  rfl

/-! ## Computations -/

section Computations

variable {computed computed' : Except Fault Money} {ticks ticks' : Int}

theorem Exact.gives (exact : left.Exact currency) : Gives currency left.ticks (.ok left) :=
  ⟨left, rfl, exact, rfl⟩

theorem Gives.add (given : Gives currency ticks computed) (given' : Gives currency ticks' computed')
    (small : (ticks + ticks').natAbs < coefficientLimit) :
    Gives currency (ticks + ticks') (do (← computed).add (← computed')) := by
  obtain ⟨money, rfl, exact, rfl⟩ := given
  obtain ⟨money', rfl, exact', rfl⟩ := given'
  exact add_gives exact exact' small

/-- An amount that is added to nothing stays as it is, in range or not. -/
theorem zero_add_gives (left_exact : left.Exact currency) (right_exact : right.Exact currency)
    (nothing : left.ticks = 0) : Gives currency right.ticks (left.add right) := by
  have same : left.currency = right.currency :=
    left_exact.currency_eq.trans right_exact.currency_eq.symm
  have sum_eq : left.amount.sum? right.amount = some right.amount :=
    if_pos ((Decimal.ticks_eq_zero_iff _).mp nothing)
  refine ⟨right, add_eq_ok.mpr ⟨same, right.amount, sum_eq, ?_⟩, right_exact, rfl⟩
  rw [of_eq right_exact.grid, same]

theorem Gives.neg (given : Gives currency ticks computed) :
    Gives currency (-ticks) (do return (← computed).neg) := by
  obtain ⟨money, rfl, exact, rfl⟩ := given
  exact ⟨money.neg, rfl, exact.neg, ticks_neg exact⟩

theorem Exact.sameValue (left_exact : left.Exact currency) (right_exact : right.Exact currency)
    (same : left.ticks = right.ticks) : left.SameValue right := by
  refine ⟨?_, left_exact.currency_eq.trans right_exact.currency_eq.symm⟩
  rw [Decimal.sameValue_iff, left_exact.value_eq, right_exact.value_eq, same]

/-- Computations that give as many ticks concur. -/
theorem Gives.concur (given : Gives currency ticks computed)
    (given' : Gives currency ticks' computed') (same : ticks = ticks') :
    Concur SameValue computed computed' := by
  obtain ⟨money, rfl, exact, rfl⟩ := given
  obtain ⟨money', rfl, exact', rfl⟩ := given'
  exact ⟨money, money', rfl, rfl, exact.sameValue exact' same⟩

end Computations

/-! ## Laws -/

/-- What holds of sums and differences of three amounts where these are in range. -/
structure Laws (first second third : Money) : Prop where
  add_exact : InRange (first.value + second.value) →
    ∃ sum, first.add second = .ok sum ∧ first.checkedAdd second = .ok (.ok sum) ∧
      IsExactly first second (first.amount.sum? second.amount) (first.value + second.value) sum
  sub_exact : InRange (first.value - second.value) →
    ∃ difference, first.sub second = .ok difference ∧
      first.checkedSub second = .ok (.ok difference) ∧
      IsExactly first second (first.amount.difference? second.amount)
        (first.value - second.value) difference
  add_comm : InRange (first.value + second.value) →
    Concur SameValue (first.add second) (second.add first)
  add_assoc : InRange (first.value + second.value) → InRange (second.value + third.value) →
    InRange (first.value + second.value + third.value) →
    Concur SameValue (do (← first.add second).add third) (do first.add (← second.add third))
  sub_add_cancel : InRange (first.value - second.value) → InRange first.value →
    Concur SameValue (do (← first.sub second).add second) (.ok first)
  neg_sub : InRange (first.value - second.value) →
    Concur SameValue (do return (← first.sub second).neg) (second.sub first)
  min_add_max : InRange (first.value + second.value) →
    Concur SameValue (do (← first.min second).add (← first.max second)) (first.add second)
  min_eq_neg_max :
    Concur SameValue (first.min second) (do return (← first.neg.max second.neg).neg)

theorem laws (first_exact : first.Exact currency) (second_exact : second.Exact currency)
    (third_exact : third.Exact currency) : Laws first second third where
  add_exact range := by
    obtain ⟨sum, sum_eq, exactly⟩ := add_isExactly first_exact second_exact range
    have same := (add_eq_ok.mp sum_eq).1
    exact ⟨sum, sum_eq, guarded_eq_ok.mpr ⟨same, sum_eq⟩, exactly⟩
  sub_exact range := by
    obtain ⟨difference, difference_eq, exactly⟩ := sub_isExactly first_exact second_exact range
    have same := (sub_eq_ok.mp difference_eq).1
    exact ⟨difference, difference_eq, guarded_eq_ok.mpr ⟨same, difference_eq⟩, exactly⟩
  add_comm range := by
    have small := range.small (value_add first_exact second_exact)
    have turned := add_gives second_exact first_exact (by omega)
    exact (add_gives first_exact second_exact small).concur turned (Int.add_comm _ _)
  add_assoc range range' range_all := by
    have small := range.small (value_add first_exact second_exact)
    have small' := range'.small (value_add second_exact third_exact)
    have small_all := range_all.small (value_add_add first_exact second_exact third_exact)
    have front := (add_gives first_exact second_exact small).add third_exact.gives small_all
    have back := first_exact.gives.add (add_gives second_exact third_exact small') (by omega)
    exact front.concur back (Int.add_assoc _ _ _)
  sub_add_cancel range range' := by
    have small := range.small (value_sub first_exact second_exact)
    have small' := range'.small first_exact.value_eq
    have back := (sub_gives first_exact second_exact small).add second_exact.gives (by omega)
    exact back.concur first_exact.gives (Int.sub_add_cancel _ _)
  neg_sub range := by
    have small := range.small (value_sub first_exact second_exact)
    have turned := sub_gives second_exact first_exact (by omega)
    exact (sub_gives first_exact second_exact small).neg.concur turned (Int.neg_sub _ _)
  min_add_max range := by
    have small := range.small (value_add first_exact second_exact)
    have both := (min_gives first_exact second_exact).add (max_gives first_exact second_exact)
      (by omega)
    exact both.concur (add_gives first_exact second_exact small) (by omega)
  min_eq_neg_max := by
    have opposite := (max_gives first_exact.neg second_exact.neg).neg
    rw [ticks_neg first_exact, ticks_neg second_exact] at opposite
    exact (min_gives first_exact second_exact).concur opposite (by omega)

end Money

namespace Amounts

open Money (InRange IsExactly)

/-- The parts of amounts, one after the other. -/
def eachPart : List (Amounts → Money) := [Amounts.pay, Amounts.discount, Amounts.writeOff]

theorem forall_eachPart {property : (Amounts → Money) → Prop} :
    (∀ part ∈ eachPart, property part) ↔
      property Amounts.pay ∧ property Amounts.discount ∧ property Amounts.writeOff := by
  simp [eachPart]

variable {currency : Currency} {amounts first second third left right : Amounts}

/-! ## Parts in range -/

theorem small_add (left_exact : left.Exact currency) (right_exact : right.Exact currency)
    (range : ∀ part ∈ eachPart, InRange ((part left).value + (part right).value)) :
    (left.parts + right.parts).Small := by
  obtain ⟨pay, discount, writeOff⟩ := forall_eachPart.mp range
  exact ⟨pay.small (Money.value_add left_exact.pay right_exact.pay),
    discount.small (Money.value_add left_exact.discount right_exact.discount),
    writeOff.small (Money.value_add left_exact.writeOff right_exact.writeOff)⟩

theorem small_sub (left_exact : left.Exact currency) (right_exact : right.Exact currency)
    (range : ∀ part ∈ eachPart, InRange ((part left).value - (part right).value)) :
    (left.parts - right.parts).Small := by
  obtain ⟨pay, discount, writeOff⟩ := forall_eachPart.mp range
  exact ⟨pay.small (Money.value_sub left_exact.pay right_exact.pay),
    discount.small (Money.value_sub left_exact.discount right_exact.discount),
    writeOff.small (Money.value_sub left_exact.writeOff right_exact.writeOff)⟩

theorem small_add_add (first_exact : first.Exact currency) (second_exact : second.Exact currency)
    (third_exact : third.Exact currency)
    (range : ∀ part ∈ eachPart,
      InRange ((part first).value + (part second).value + (part third).value)) :
    (first.parts + second.parts + third.parts).Small := by
  obtain ⟨pay, discount, writeOff⟩ := forall_eachPart.mp range
  exact ⟨pay.small (Money.value_add_add first_exact.pay second_exact.pay third_exact.pay),
    discount.small
      (Money.value_add_add first_exact.discount second_exact.discount third_exact.discount),
    writeOff.small
      (Money.value_add_add first_exact.writeOff second_exact.writeOff third_exact.writeOff)⟩

theorem small_of_exact (exact : amounts.Exact currency)
    (range : ∀ part ∈ eachPart, InRange (part amounts).value) : amounts.parts.Small := by
  obtain ⟨pay, discount, writeOff⟩ := forall_eachPart.mp range
  exact ⟨pay.small exact.pay.value_eq, discount.small exact.discount.value_eq,
    writeOff.small exact.writeOff.value_eq⟩

/-! ## Exact parts -/

/-- Amounts are combined part by part, where every part can be. -/
theorem exists_combine {operation : Money → Money → Except Fault Money}
    {property : (Amounts → Money) → Money → Prop}
    (parts : ∀ part ∈ eachPart, ∃ money, operation (part left) (part right) = .ok money ∧
      property part money) :
    ∃ result, combine operation left right = .ok result ∧
      ∀ part ∈ eachPart, property part (part result) := by
  obtain ⟨⟨pay, pay_eq, pay_holds⟩, ⟨discount, discount_eq, discount_holds⟩, writeOff, writeOff_eq,
    writeOff_holds⟩ := forall_eachPart.mp parts
  refine ⟨⟨pay, discount, writeOff⟩, combine_eq_ok pay_eq discount_eq writeOff_eq, ?_⟩
  exact forall_eachPart.mpr ⟨pay_holds, discount_holds, writeOff_holds⟩

theorem Exact.part (exact : amounts.Exact currency) :
    ∀ part ∈ eachPart, (part amounts).Exact currency :=
  forall_eachPart.mpr ⟨exact.pay, exact.discount, exact.writeOff⟩

/-! ## Computations -/

section Computations

variable {computed computed' : Except Fault Amounts} {parts parts' : Parts}

theorem Exact.gives (exact : amounts.Exact currency) : Gives currency amounts.parts (.ok amounts) :=
  ⟨amounts, rfl, exact, rfl⟩

theorem Gives.add (given : Gives currency parts computed) (given' : Gives currency parts' computed')
    (small : (parts + parts').Small) :
    Gives currency (parts + parts') (do (← computed).add (← computed')) := by
  obtain ⟨amounts, rfl, exact, rfl⟩ := given
  obtain ⟨amounts', rfl, exact', rfl⟩ := given'
  exact add_gives_of_small exact exact' small

theorem Gives.neg (given : Gives currency parts computed) :
    Gives currency (-parts) (do return (← computed).neg) := by
  obtain ⟨amounts, rfl, exact, rfl⟩ := given
  refine ⟨amounts.neg, rfl, ⟨exact.pay.neg, exact.discount.neg, exact.writeOff.neg⟩, ?_⟩
  exact Parts.ext (Money.ticks_neg exact.pay) (Money.ticks_neg exact.discount)
    (Money.ticks_neg exact.writeOff)

theorem Gives.total (given : Gives currency parts computed)
    (front_small : (parts.pay + parts.discount).natAbs < coefficientLimit)
    (small : parts.total.natAbs < coefficientLimit) :
    Money.Gives currency parts.total (do (← computed).total) := by
  obtain ⟨amounts, rfl, exact, rfl⟩ := given
  exact total_gives_of_small exact front_small small

/-- Computations that give the same parts concur. -/
theorem Gives.concur (given : Gives currency parts computed)
    (given' : Gives currency parts' computed') (same : parts = parts') :
    Concur SameValue computed computed' := by
  obtain ⟨amounts, rfl, exact, rfl⟩ := given
  obtain ⟨amounts', rfl, exact', parts_eq⟩ := given'
  obtain ⟨pay, discount, writeOff⟩ := Parts.ext_iff.mp (same.trans parts_eq.symm)
  exact ⟨amounts, amounts', rfl, rfl, exact.pay.sameValue exact'.pay pay,
    exact.discount.sameValue exact'.discount discount,
    exact.writeOff.sameValue exact'.writeOff writeOff⟩

end Computations

/-! ## Laws -/

/-- The sums on the way to a total are in range. -/
structure TotalInRange (amounts : Amounts) : Prop where
  front : InRange (amounts.pay.value + amounts.discount.value)
  whole : InRange (amounts.pay.value + amounts.discount.value + amounts.writeOff.value)

/-- What holds of sums, differences and totals of three amounts where these are in range. -/
structure Laws (first second third : Amounts) : Prop where
  part_laws : ∀ part ∈ eachPart, (part first).Laws (part second) (part third)
  add_exact : (∀ part ∈ eachPart, InRange ((part first).value + (part second).value)) →
    ∃ sum, first.add second = .ok sum ∧
      ∀ part ∈ eachPart, IsExactly (part first) (part second)
        ((part first).amount.sum? (part second).amount)
        ((part first).value + (part second).value) (part sum)
  sub_exact : (∀ part ∈ eachPart, InRange ((part first).value - (part second).value)) →
    ∃ difference, first.sub second = .ok difference ∧
      ∀ part ∈ eachPart, IsExactly (part first) (part second)
        ((part first).amount.difference? (part second).amount)
        ((part first).value - (part second).value) (part difference)
  add_comm : (∀ part ∈ eachPart, InRange ((part first).value + (part second).value)) →
    Concur SameValue (first.add second) (second.add first)
  add_assoc : (∀ part ∈ eachPart, InRange ((part first).value + (part second).value)) →
    (∀ part ∈ eachPart, InRange ((part second).value + (part third).value)) →
    (∀ part ∈ eachPart,
      InRange ((part first).value + (part second).value + (part third).value)) →
    Concur SameValue (do (← first.add second).add third) (do first.add (← second.add third))
  sub_add_cancel : (∀ part ∈ eachPart, InRange ((part first).value - (part second).value)) →
    (∀ part ∈ eachPart, InRange (part first).value) →
    Concur SameValue (do (← first.sub second).add second) (.ok first)
  neg_sub : (∀ part ∈ eachPart, InRange ((part first).value - (part second).value)) →
    Concur SameValue (do return (← first.sub second).neg) (second.sub first)
  total_add : (∀ part ∈ eachPart, InRange ((part first).value + (part second).value)) →
    first.TotalInRange → second.TotalInRange →
    InRange (first.pay.value + second.pay.value +
      (first.discount.value + second.discount.value)) →
    InRange (first.pay.value + first.discount.value + first.writeOff.value +
      (second.pay.value + second.discount.value + second.writeOff.value)) →
    Concur Money.SameValue (do (← first.add second).total)
      (do (← first.total).add (← second.total))
  total_payToDiscount : first.TotalInRange →
    Concur Money.SameValue (do (← first.payToDiscount).total) first.total
  total_payToWriteOff : first.TotalInRange → InRange (first.writeOff.value + first.pay.value) →
    Concur Money.SameValue (do (← first.payToWriteOff).total) first.total

theorem TotalInRange.small (range : amounts.TotalInRange) (exact : amounts.Exact currency) :
    (amounts.parts.pay + amounts.parts.discount).natAbs < coefficientLimit ∧
      amounts.parts.total.natAbs < coefficientLimit :=
  ⟨range.front.small (Money.value_add exact.pay exact.discount),
    range.whole.small (Money.value_add_add exact.pay exact.discount exact.writeOff)⟩

theorem TotalInRange.gives (range : amounts.TotalInRange) (exact : amounts.Exact currency) :
    Money.Gives currency amounts.parts.total amounts.total :=
  total_gives_of_small exact (range.small exact).1 (range.small exact).2

theorem laws (first_exact : first.Exact currency) (second_exact : second.Exact currency)
    (third_exact : third.Exact currency) : Laws first second third where
  part_laws part mem := Money.laws (first_exact.part part mem) (second_exact.part part mem)
    (third_exact.part part mem)
  add_exact range := exists_combine fun part mem =>
    Money.add_isExactly (first_exact.part part mem) (second_exact.part part mem) (range part mem)
  sub_exact range := exists_combine fun part mem =>
    Money.sub_isExactly (first_exact.part part mem) (second_exact.part part mem) (range part mem)
  add_comm range := by
    have small := small_add first_exact second_exact range
    have turned := add_gives_of_small second_exact first_exact (add_comm first.parts _ ▸ small)
    exact (add_gives_of_small first_exact second_exact small).concur turned (add_comm _ _)
  add_assoc range range' range_all := by
    have small := small_add first_exact second_exact range
    have small' := small_add second_exact third_exact range'
    have small_all := small_add_add first_exact second_exact third_exact range_all
    have front := (add_gives_of_small first_exact second_exact small).add third_exact.gives
      small_all
    have back := first_exact.gives.add (add_gives_of_small second_exact third_exact small')
      (add_assoc first.parts _ _ ▸ small_all)
    exact front.concur back (add_assoc _ _ _)
  sub_add_cancel range range' := by
    have small := small_sub first_exact second_exact range
    have whole := small_of_exact first_exact range'
    have same := sub_add_cancel first.parts second.parts
    have back := (sub_gives_of_small first_exact second_exact small).add second_exact.gives
      (same.symm ▸ whole)
    exact back.concur first_exact.gives same
  neg_sub range := by
    have small := small_sub first_exact second_exact range
    have opposite := neg_sub first.parts second.parts
    have turned := sub_gives_of_small second_exact first_exact (opposite ▸ small.neg)
    exact (sub_gives_of_small first_exact second_exact small).neg.concur turned opposite
  total_add range first_range second_range front_range whole_range := by
    have sum := add_gives_of_small first_exact second_exact
      (small_add first_exact second_exact range)
    have front := front_range.small (by
      rw [Money.value_add first_exact.pay second_exact.pay,
        Money.value_add first_exact.discount second_exact.discount, ← add_div, ← Int.cast_add])
    have whole := whole_range.small (by
      rw [Money.value_add_add first_exact.pay first_exact.discount first_exact.writeOff,
        Money.value_add_add second_exact.pay second_exact.discount second_exact.writeOff,
        ← add_div, ← Int.cast_add])
    have totals := (first_range.gives first_exact).add (second_range.gives second_exact) whole
    exact (sum.total front (by rwa [Parts.total_add])).concur totals (Parts.total_add _ _)
  total_payToDiscount range := by
    obtain ⟨front, whole⟩ := range.small first_exact
    simp only [Parts.total] at whole
    have moved := payToDiscount_gives first_exact (by omega)
    have total := moved.total (by simp only; omega) (by simp only [Parts.total]; omega)
    refine total.concur (range.gives first_exact) ?_
    simp only [Parts.total]
    omega
  total_payToWriteOff range range' := by
    obtain ⟨moved, moved_eq, moved_exact, moved_parts⟩ := payToWriteOff_gives first_exact
      (range'.small (Money.value_add first_exact.writeOff first_exact.pay))
    obtain ⟨-, whole⟩ := range.small first_exact
    rw [Parts.ext_iff] at moved_parts
    simp only [Parts.total, pay_parts, discount_parts, writeOff_parts] at moved_parts whole
    obtain ⟨nothing, discount_eq, writeOff_eq⟩ := moved_parts
    -- The discount is added to nothing, so it need not be in range itself.
    have total := (Money.zero_add_gives moved_exact.pay moved_exact.discount nothing).add
      moved_exact.writeOff.gives (by omega)
    rw [moved_eq]
    refine Money.Gives.concur total (range.gives first_exact) ?_
    simp only [Parts.total, pay_parts, discount_parts, writeOff_parts]
    omega

end Amounts

/-- Money and amounts with at most four fraction digits are added and subtracted exactly while the
sums and differences are in range, and the laws of addition hold for them by value. -/
theorem arithmetic_exact (currency : Currency) :
    (∀ first second third : Money, first.Exact currency → second.Exact currency →
      third.Exact currency → first.Laws second third) ∧
    (∀ first second third : Amounts, first.Exact currency → second.Exact currency →
      third.Exact currency → first.Laws second third) :=
  ⟨fun _ _ _ => Money.laws, fun _ _ _ => Amounts.laws⟩

namespace Samples

/-- The greatest amount of cents that is in range. -/
def greatest : Money := ⟨⟨false, 792281625142643375935439503, 2, by decide, by decide⟩, .usd⟩

/-- An amount of hundredths of a cent, below zero. -/
def hundredths : Money := ⟨⟨true, 33, 4, by decide, by decide⟩, .usd⟩

/-- The two of them as the parts of amounts. -/
def parted : Amounts := ⟨greatest, hundredths, .zero .usd⟩

theorem greatest_exact : greatest.Exact .usd := ⟨rfl, show 2 ≤ Money.places by decide⟩

theorem hundredths_exact : hundredths.Exact .usd := ⟨rfl, show 4 ≤ Money.places by decide⟩

theorem parted_exact : parted.Exact .usd :=
  ⟨greatest_exact, hundredths_exact, Money.exact_zero .usd⟩

theorem parted_totalInRange : parted.TotalInRange where
  front := by
    rw [Money.value_add parted_exact.pay parted_exact.discount, Money.inRange_ticks_iff]
    decide
  whole := by
    rw [Money.value_add_add parted_exact.pay parted_exact.discount parted_exact.writeOff,
      Money.inRange_ticks_iff]
    decide

/-- At the end of the range nothing is lost: four fraction digits are kept, taking off what is added
gives the amount back, and the total stays when the payment becomes a discount. -/
theorem arithmetic_samples :
    (greatest.Exact .usd ∧ hundredths.Exact .usd ∧ parted.Exact .usd) ∧
      Money.InRange (greatest.value - hundredths.value) ∧ Money.InRange greatest.value ∧
      parted.TotalInRange ∧
      Concur Money.SameValue (do (← greatest.sub hundredths).add hundredths) (.ok greatest) ∧
      Concur Money.SameValue (do (← parted.payToDiscount).total) parted.total := by
  have range : Money.InRange (greatest.value - hundredths.value) := by
    rw [Money.value_sub greatest_exact hundredths_exact, Money.inRange_ticks_iff]
    decide
  have range' : Money.InRange greatest.value := by
    rw [Money.value, greatest_exact.value_eq, Money.inRange_ticks_iff]
    decide
  have laws := (arithmetic_exact .usd).1 greatest hundredths greatest greatest_exact
    hundredths_exact greatest_exact
  have parted_laws := (arithmetic_exact .usd).2 parted parted parted parted_exact parted_exact
    parted_exact
  exact ⟨⟨greatest_exact, hundredths_exact, parted_exact⟩, range, range', parted_totalInRange,
    laws.sub_add_cancel range range', parted_laws.total_payToDiscount parted_totalInRange⟩

end Samples
end Settlement
