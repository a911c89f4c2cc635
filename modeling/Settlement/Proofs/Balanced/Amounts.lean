import Settlement.Proofs.Currencies.Proposals
import Settlement.Proofs.Exact.Fresh

/-!
# What amounts are worth

The values of amounts as numbers: what comes of exact amounts has the value of its ticks, numbers
that are small together are few ticks together, and an amount in another currency is not added.
-/

namespace Settlement

/-- A computation gives an amount of a certain value in a currency. -/
def Money.Yields (currency : Currency) (value : Rat) (computed : Except Fault Money) : Prop :=
  ∃ money, computed = .ok money ∧ money.currency = currency ∧ money.amount.value = value

/-- What comes of exact amounts has the value of its ticks. -/
theorem Money.Gives.yields {currency : Currency} {ticks : Int} {value : Rat}
    {computed : Except Fault Money} (gives : Money.Gives currency ticks computed)
    (value_eq : value = (ticks : Rat) / tenTo places) : Money.Yields currency value computed := by
  obtain ⟨money, money_eq, exact, rfl⟩ := gives
  exact ⟨money, money_eq, exact.currency_eq, exact.value_eq.trans value_eq.symm⟩

/-- An amount in another currency is not added. -/
theorem Money.add_refused {currency : Currency} {left right : Money}
    (left_currency : left.currency = currency) (other : right.currency ≠ currency) :
    left.add right = .error (.currencyMismatch .sum currency right.currency) := by
  rw [add, left_currency, if_pos other.symm]

theorem Money.onGrid_ofMinor (units : Int64) (currency : Currency) :
    (Money.ofMinor units currency).amount.OnGrid :=
  Decimal.scale_round_le 4 _

/-- Numbers that are counted in ticks are counted so together. -/
theorem sum_map_ticks {α : Type} {entries : List α} {value : α → Rat} {weight : α → Nat}
    (same : ∀ entry ∈ entries, value entry = (weight entry : Rat) / 10 ^ 4) :
    (entries.map value).sum = ((entries.map weight).sum : Nat) / 10 ^ 4 := by
  induction entries with
  | nil => simp
  | cons entry rest ih =>
      rw [List.map_cons, List.sum_cons, List.map_cons, List.sum_cons, same entry (by simp),
        ih fun other mem => same other (by simp [mem]), Nat.cast_add, add_div]

namespace Amounts

/-- What the three parts are worth together. -/
def value (amounts : Amounts) : Rat :=
  amounts.pay.amount.value + amounts.discount.amount.value + amounts.writeOff.amount.value

/-- What the three parts are worth together without their signs. -/
def magnitude (amounts : Amounts) : Rat :=
  |amounts.pay.amount.value| + |amounts.discount.amount.value| + |amounts.writeOff.amount.value|

/-- Every part has at most four fraction digits, in whatever currency it is. -/
structure OnGrid (amounts : Amounts) : Prop where
  pay : amounts.pay.amount.OnGrid
  discount : amounts.discount.amount.OnGrid
  writeOff : amounts.writeOff.amount.OnGrid

variable {currency : Currency} {amounts : Amounts}

theorem Exact.onGrid (exact : amounts.Exact currency) : amounts.OnGrid :=
  ⟨exact.pay.grid, exact.discount.grid, exact.writeOff.grid⟩

theorem UsesOnly.exact (single : amounts.UsesOnly currency) (grid : amounts.OnGrid) :
    amounts.Exact currency :=
  ⟨⟨single.pay, grid.pay⟩, ⟨single.discount, grid.discount⟩, ⟨single.writeOff, grid.writeOff⟩⟩

theorem Exact.value_eq (exact : amounts.Exact currency) :
    amounts.value = (amounts.parts.total : Rat) / tenTo Money.places := by
  rw [value, exact.pay.value_eq, exact.discount.value_eq, exact.writeOff.value_eq, ← add_div,
    ← add_div, Parts.total]
  push_cast
  rfl

theorem OnGrid.magnitude_eq (grid : amounts.OnGrid) :
    amounts.magnitude = (amounts.parts.magnitude : Rat) / 10 ^ 4 := by
  rw [magnitude, Decimal.abs_value grid.pay, Decimal.abs_value grid.discount,
    Decimal.abs_value grid.writeOff, ← add_div, ← add_div, Parts.magnitude]
  push_cast
  rfl

/-- Amounts with a part in another currency are not added: the first such part is refused. -/
theorem add_refused {left right : Amounts} (exact : left.Exact currency) (grid : right.OnGrid)
    (foreign : ¬right.UsesOnly currency)
    (small : (left.parts + right.parts).magnitude < coefficientLimit) :
    ∃ other ≠ currency, left.add right = .error (.currencyMismatch .sum currency other) := by
  simp only [Parts.magnitude, Parts.pay_add, Parts.discount_add, Parts.writeOff_add, pay_parts,
    discount_parts, writeOff_parts] at small
  by_cases pay : right.pay.currency = currency
  · obtain ⟨paid, paid_eq, -, -⟩ :=
      Money.add_gives exact.pay ⟨pay, grid.pay⟩ (by omega)
    by_cases discount : right.discount.currency = currency
    · obtain ⟨granted, granted_eq, -, -⟩ :=
        Money.add_gives exact.discount ⟨discount, grid.discount⟩ (by omega)
      have writeOff : right.writeOff.currency ≠ currency :=
        fun same => foreign ⟨pay, discount, same⟩
      refine ⟨_, writeOff, ?_⟩
      rw [add, combine, paid_eq, granted_eq,
        Money.add_refused exact.writeOff.currency_eq writeOff]
      rfl
    · refine ⟨_, discount, ?_⟩
      rw [add, combine, paid_eq, Money.add_refused exact.discount.currency_eq discount]
      rfl
  · refine ⟨_, pay, ?_⟩
    rw [add, combine, Money.add_refused exact.pay.currency_eq pay]
    rfl

end Amounts

/-! ## Sample amounts -/

namespace Samples

/-- Amounts in cents, with the discount in a currency of its own. -/
def minorAmounts (granted : Currency) (pay discount writeOff : Int64) : Amounts :=
  ⟨.ofMinor pay .usd, .ofMinor discount granted, .ofMinor writeOff .usd⟩

theorem minorAmounts_onGrid (granted : Currency) (pay discount writeOff : Int64) :
    (minorAmounts granted pay discount writeOff).OnGrid :=
  ⟨Money.onGrid_ofMinor _ _, Money.onGrid_ofMinor _ _, Money.onGrid_ofMinor _ _⟩

end Samples
end Settlement
