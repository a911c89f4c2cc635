import Settlement.Proofs.Balanced.Amounts
import Settlement.Proofs.Balances
import Settlement.Proofs.Exact.Recordings
import Settlement.Proofs.Resets
import Settlement.Proofs.Values.Documents

/-!
# Balances that have grown

The balances of a document are its terms and what has moved between what is left and what has been
allocated.  Of exact documents, what has moved is worth what the ticks of the amounts come to, and
documents with the same terms and the same ticks have the same value.
-/

namespace Settlement

/-! ## What amounts are worth -/

/-- What amounts are worth together. -/
def Money.worth (amounts : List Money) : Rat := (amounts.map fun money => money.amount.value).sum

theorem Money.worth_eq {currency : Currency} {amounts : List Money}
    (exact : ∀ money ∈ amounts, money.Exact currency) :
    Money.worth amounts = ((amounts.map Money.ticks).sum : Int) / (tenTo places : Rat) := by
  induction amounts with
  | nil => simp [worth]
  | cons money rest ih =>
      have rest_eq := ih fun other mem => exact other (by simp [mem])
      rw [worth] at rest_eq
      rw [worth, List.map_cons, List.sum_cons, rest_eq, (exact money (by simp)).value_eq,
        List.map_cons, List.sum_cons, Int.cast_add, add_div]

theorem Amounts.sum_parts (amounts : List Amounts) :
    (amounts.map parts).sum =
      ⟨((amounts.map pay).map Money.ticks).sum, ((amounts.map discount).map Money.ticks).sum,
        ((amounts.map writeOff).map Money.ticks).sum⟩ := by
  induction amounts with
  | nil => rfl
  | cons first rest ih =>
      rw [List.map_cons, List.sum_cons, ih]
      rfl

/-! ## Payables -/

namespace Payable

/-- In one part, so much has moved from what is left to what has been allocated. -/
structure Moved (part : Amounts → Money) (before after : Payable) (value : Rat) : Prop where
  allocated : (part after.allocated).amount.value = (part before.allocated).amount.value + value
  remaining : (part after.remaining).amount.value = (part before.remaining).amount.value - value

/-- The same payable after amounts have been allocated to it and others paid with it. -/
structure Grown (before : Payable) (direct : List Amounts) (through : List Money)
    (after : Payable) : Prop where
  reset_eq : after.reset = before.reset
  exact : after.Exact
  pay : Moved Amounts.pay before after
    (Money.worth (direct.map Amounts.pay) - Money.worth through)
  discount : Moved Amounts.discount before after (Money.worth (direct.map Amounts.discount))
  writeOff : Moved Amounts.writeOff before after (Money.worth (direct.map Amounts.writeOff))

/-- All balances of the payable together, without signs. -/
def magnitude (payable : Payable) : Rat :=
  payable.remaining.magnitude + payable.allocated.magnitude

theorem Exact.magnitude_eq {payable : Payable} (exact : payable.Exact) :
    payable.magnitude = (payable.debt.weight : Rat) / 10 ^ 4 := by
  rw [magnitude, exact.remaining.onGrid.magnitude_eq, exact.allocated.onGrid.magnitude_eq,
    ← add_div, ← Nat.cast_add]
  rfl

variable {before after : Payable} {direct : List Amounts} {through : List Money}

/-- A part has moved by what its ticks have. -/
theorem moved_of_ticks {part : Amounts → Money} {currency : Currency} {shift : Int}
    (before_allocated : (part before.allocated).Exact currency)
    (before_remaining : (part before.remaining).Exact currency)
    (after_allocated : (part after.allocated).Exact currency)
    (after_remaining : (part after.remaining).Exact currency)
    (allocated_eq : (part after.allocated).ticks = (part before.allocated).ticks + shift)
    (remaining_eq : (part after.remaining).ticks = (part before.remaining).ticks - shift) :
    Moved part before after ((shift : Rat) / tenTo Money.places) where
  allocated := by
    rw [after_allocated.value_eq, before_allocated.value_eq, allocated_eq, Int.cast_add, add_div]
  remaining := by
    rw [after_remaining.value_eq, before_remaining.value_eq, remaining_eq, Int.cast_sub, sub_div]

theorem grown_of_charge (before_exact : before.Exact) (after_exact : after.Exact)
    (reset_eq : after.reset = before.reset)
    (direct_exact : ∀ amounts ∈ direct, amounts.Exact before.currency)
    (through_exact : ∀ money ∈ through, money.Exact before.currency)
    (debt_eq : after.debt = before.debt.charge
      ((direct.map Amounts.parts).sum - Parts.ofPay (through.map Money.ticks).sum)) :
    before.Grown direct through after := by
  have currency_eq : after.currency = before.currency :=
    congrArg (fun debt : Debt => debt.currency) debt_eq
  have allocated_eq : after.allocated.parts = before.allocated.parts +
      ((direct.map Amounts.parts).sum - Parts.ofPay (through.map Money.ticks).sum) :=
    congrArg Debt.allocated debt_eq
  have remaining_eq : after.remaining.parts = before.remaining.parts -
      ((direct.map Amounts.parts).sum - Parts.ofPay (through.map Money.ticks).sum) :=
    congrArg Debt.remaining debt_eq
  rw [Amounts.sum_parts, Parts.ext_iff] at allocated_eq remaining_eq
  have allocated := after_exact.allocated
  have remaining := after_exact.remaining
  rw [currency_eq] at allocated remaining
  have part_worth : ∀ part : Amounts → Money,
      (∀ amounts ∈ direct, (part amounts).Exact before.currency) →
      Money.worth (direct.map part) =
        (((direct.map part).map Money.ticks).sum : Int) / (tenTo Money.places : Rat) := by
    intro part exact
    exact Money.worth_eq (List.forall_mem_map.mpr exact)
  refine ⟨reset_eq, after_exact, ?_, ?_, ?_⟩
  · rw [part_worth _ fun amounts mem => (direct_exact amounts mem).pay,
      Money.worth_eq through_exact, ← sub_div, ← Int.cast_sub]
    exact moved_of_ticks before_exact.allocated.pay before_exact.remaining.pay allocated.pay
      remaining.pay allocated_eq.1 remaining_eq.1
  · rw [part_worth _ fun amounts mem => (direct_exact amounts mem).discount]
    refine moved_of_ticks before_exact.allocated.discount before_exact.remaining.discount
      allocated.discount remaining.discount ?_ ?_
    · simpa using allocated_eq.2.1
    · simpa using remaining_eq.2.1
  · rw [part_worth _ fun amounts mem => (direct_exact amounts mem).writeOff]
    refine moved_of_ticks before_exact.allocated.writeOff before_exact.remaining.writeOff
      allocated.writeOff remaining.writeOff ?_ ?_
    · simpa using allocated_eq.2.2
    · simpa using remaining_eq.2.2

theorem sameValue_of_debt_eq {payable payable' : Payable} (exact : payable.Exact)
    (exact' : payable'.Exact) (reset_eq : payable.reset = payable'.reset)
    (debt_eq : payable.debt = payable'.debt) : payable.SameValue payable' := by
  have currency_eq : payable'.currency = payable.currency :=
    congrArg (fun debt : Debt => debt.currency) debt_eq.symm
  have number_eq : payable.reset.number = payable'.reset.number :=
    congrArg Payable.number reset_eq
  have remaining_exact := exact'.remaining
  have allocated_exact := exact'.allocated
  rw [currency_eq] at remaining_exact allocated_exact
  refine sameValue_iff_agrees.mpr
    { kind_eq := congrArg (fun debt : Debt => debt.kind) debt_eq
      organization_eq := congrArg (fun debt : Debt => debt.organization) debt_eq
      partner_eq := congrArg (fun debt : Debt => debt.partner) debt_eq
      number_eq := number_eq
      side_eq := congrArg (fun debt : Debt => debt.side) debt_eq
      creditMemo_eq := congrArg (fun debt : Debt => debt.creditMemo) debt_eq
      reference_eq := congrArg (fun debt : Debt => debt.reference) debt_eq
      openAmount := openAmount_of_reset reset_eq ▸ .refl _
      initial := initial_of_reset reset_eq ▸ .refl _
      remaining :=
        (exact.remaining.sameValue_iff remaining_exact).mpr (congrArg Debt.remaining debt_eq)
      allocated :=
        (exact.allocated.sameValue_iff allocated_exact).mpr (congrArg Debt.allocated debt_eq) }

end Payable

/-! ## Payments -/

namespace Payment

/-- The same payment after amounts have been paid with it. -/
structure Grown (before : Payment) (used : List Money) (after : Payment) : Prop where
  reset_eq : after.reset = before.reset
  exact : after.Exact
  allocated :
    after.allocated.amount.value = before.allocated.amount.value + Money.worth used
  remaining :
    after.remaining.amount.value = before.remaining.amount.value - Money.worth used

/-- All balances of the payment together, without signs. -/
def magnitude (payment : Payment) : Rat :=
  |payment.remaining.amount.value| + |payment.allocated.amount.value|

theorem Exact.magnitude_eq {payment : Payment} (exact : payment.Exact) :
    payment.magnitude = (payment.fund.weight : Rat) / 10 ^ 4 := by
  rw [magnitude, Decimal.abs_value exact.remaining.grid, Decimal.abs_value exact.allocated.grid,
    ← add_div, ← Nat.cast_add]
  rfl

theorem grown_of_draw {before after : Payment} {used : List Money} (before_exact : before.Exact)
    (after_exact : after.Exact) (reset_eq : after.reset = before.reset)
    (used_exact : ∀ money ∈ used, money.Exact before.currency)
    (fund_eq : after.fund = before.fund.draw (used.map Money.ticks).sum) :
    before.Grown used after := by
  have allocated_eq : after.allocated.ticks = before.allocated.ticks +
      (used.map Money.ticks).sum := congrArg Fund.allocated fund_eq
  have remaining_eq : after.remaining.ticks = before.remaining.ticks -
      (used.map Money.ticks).sum := congrArg Fund.remaining fund_eq
  refine ⟨reset_eq, after_exact, ?_, ?_⟩
  · rw [after_exact.allocated.value_eq, before_exact.allocated.value_eq, allocated_eq,
      Money.worth_eq used_exact, Int.cast_add, add_div]
  · rw [after_exact.remaining.value_eq, before_exact.remaining.value_eq, remaining_eq,
      Money.worth_eq used_exact, Int.cast_sub, sub_div]

theorem sameValue_of_fund_eq {payment payment' : Payment} (exact : payment.Exact)
    (exact' : payment'.Exact) (reset_eq : payment.reset = payment'.reset)
    (fund_eq : payment.fund = payment'.fund) : payment.SameValue payment' := by
  have currency_eq : payment'.currency = payment.currency :=
    congrArg (fun fund : Fund => fund.currency) fund_eq.symm
  have number_eq : payment.reset.number = payment'.reset.number :=
    congrArg Payment.number reset_eq
  have id_eq : payment.reset.id = payment'.reset.id := congrArg Payment.id reset_eq
  have remaining_exact := exact'.remaining
  have allocated_exact := exact'.allocated
  rw [currency_eq] at remaining_exact allocated_exact
  exact sameValue_iff_agrees.mpr
    { organization_eq := congrArg (fun fund : Fund => fund.organization) fund_eq
      partner_eq := congrArg (fun fund : Fund => fund.partner) fund_eq
      number_eq := number_eq
      direction_eq := congrArg (fun fund : Fund => fund.direction) fund_eq
      id_eq := id_eq
      openAmount := openAmount_of_reset reset_eq ▸ .refl _
      initial := initial_of_reset reset_eq ▸ .refl _
      remaining :=
        (exact.remaining.sameValue_iff remaining_exact).mpr (congrArg Fund.remaining fund_eq)
      allocated :=
        (exact.allocated.sameValue_iff allocated_exact).mpr (congrArg Fund.allocated fund_eq) }

end Payment

end Settlement
