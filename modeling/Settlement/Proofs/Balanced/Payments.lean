import Settlement.Checks
import Settlement.Proofs.Balanced.Amounts
import Settlement.Proofs.Balances
import Settlement.Proofs.Resets

/-!
# Histories of a payment

A payment that has just been drawn up stays in balance whatever is recorded on it afterwards, also
past what it started with and back.
-/

namespace Settlement

namespace Payment

/-- The payment after amounts, each tried on what the one before it left. -/
def recorded (payment : Payment) (amounts : List Money) : Payment :=
  amounts.foldl (fun now amount => (now.allocate amount).after) payment

theorem recorded_concat (payment : Payment) (taken : List Money) (amount : Money) :
    payment.recorded (taken ++ [amount]) = ((payment.recorded taken).allocate amount).after := by
  rw [recorded, List.foldl_append]
  rfl

/-- An amount in the currency of the payment is recorded; one in another currency leaves the
payment as it was. -/
structure Obeys (payment : Payment) (amount : Money) : Prop where
  completes : amount.currency = payment.currency → (payment.allocate amount).fault? = none
  refused : amount.currency ≠ payment.currency → payment.allocate amount =
    ⟨payment, some (.currencyMismatch .sum payment.currency amount.currency)⟩

/-- The payment keeps its terms and its balance, and an amount would leave open what the balance
says, before it is recorded and after. -/
structure Consistent (start : Payment) (amount : Money) (now : Payment) : Prop where
  initial_eq : now.initial = start.initial
  openAmount_eq : now.openAmount = start.openAmount
  currency_eq : now.currency = start.currency
  remaining_currency : now.remaining.currency = now.currency
  remaining_eq :
    now.remaining.amount.value = now.initial.amount.value - now.allocated.amount.value
  balanced : now.isBalanced = true
  projected : Money.Yields now.currency
    (now.openAmount.amount.value - now.initial.amount.value + now.remaining.amount.value -
      amount.amount.value)
    (now.projected amount)
  recorded : ∃ after before_open after_open, now.allocate amount = .complete after ∧
    now.projected amount = .ok before_open ∧
    after.projected (Money.zero now.currency) = .ok after_open ∧
    before_open.SameValue after_open

/-- A fresh payment with a history and with an amount to project, all small together. -/
structure HasRoom (payment : Payment) (amounts : List Money) (amount : Money) : Prop where
  fresh : payment.Fresh
  amounts_grid : ∀ recorded ∈ amounts, recorded.amount.OnGrid
  amount_exact : amount.Exact payment.currency
  small : |payment.openAmount.amount.value| + |payment.initial.amount.value| +
    (amounts.map fun recorded => |recorded.amount.value|).sum + |amount.amount.value| <
      2 ^ 96 / 10 ^ 4

/-- A payment that was started with and has come this far: what has been allocated is no more than
what has been spent, in ticks. -/
structure Reached (start : Payment) (spent : Nat) (now : Payment) : Prop where
  exact : now.Exact
  reset_eq : now.reset = start.reset
  balance : now.remaining.ticks + now.allocated.ticks = now.initial.ticks
  allocated_le : now.allocated.ticks.natAbs ≤ spent

/-- What is counted from the payment and from what has been spent is small. -/
def Bounded (payment : Payment) (spent : Nat) : Prop :=
  payment.openAmount.ticks.natAbs + payment.initial.ticks.natAbs + spent < coefficientLimit

section

variable {start now : Payment} {spent : Nat} {amount : Money}

theorem Reached.initial_eq (reached : start.Reached spent now) : now.initial = start.initial :=
  initial_of_reset reached.reset_eq

theorem Reached.openAmount_eq (reached : start.Reached spent now) :
    now.openAmount = start.openAmount :=
  openAmount_of_reset reached.reset_eq

theorem Reached.currency_eq (reached : start.Reached spent now) : now.currency = start.currency :=
  congrArg Money.currency reached.initial_eq

theorem Fresh.reached (fresh : start.Fresh) : start.Reached 0 start where
  exact := fresh.exact
  reset_eq := rfl
  balance := by
    have allocated_eq : start.allocated.ticks = 0 := fresh.fund_allocated
    rw [fresh.untouched.remaining_eq, allocated_eq, Int.add_zero]
  allocated_le := Nat.le_of_eq (congrArg Int.natAbs fresh.fund_allocated)

theorem Bounded.mono {spent' : Nat} (bounded : now.Bounded spent') (le : spent ≤ spent') :
    now.Bounded spent :=
  Nat.lt_of_le_of_lt (Nat.add_le_add_left le _) bounded

theorem Reached.small (reached : start.Reached spent now) (bounded : now.Bounded spent) :
    now.fund.Small := by
  have balance := reached.balance
  have allocated_le := reached.allocated_le
  unfold Bounded at bounded
  refine ⟨?_, ?_⟩
  · change now.openAmount.ticks.natAbs + now.allocated.ticks.natAbs < coefficientLimit
    omega
  · change now.openAmount.ticks.natAbs + now.remaining.ticks.natAbs < coefficientLimit
    omega

theorem Reached.draw_small (reached : start.Reached spent now)
    (bounded : now.Bounded (spent + amount.ticks.natAbs)) :
    (now.fund.draw amount.ticks).Small := by
  have balance := reached.balance
  have allocated_le := reached.allocated_le
  unfold Bounded at bounded
  refine ⟨?_, ?_⟩
  · change now.openAmount.ticks.natAbs + (now.allocated.ticks + amount.ticks).natAbs < _
    omega
  · change now.openAmount.ticks.natAbs + (now.remaining.ticks - amount.ticks).natAbs < _
    omega

/-! ## Steps -/

theorem Reached.allocate (reached : start.Reached spent now)
    (amount_exact : amount.Exact now.currency)
    (bounded : now.Bounded (spent + amount.ticks.natAbs)) :
    start.Reached (spent + amount.ticks.natAbs) (now.allocate amount).after ∧
      (now.allocate amount).fault? = none := by
  have same := now.reset_allocate amount
  obtain ⟨after, after_eq, exact, after_fund⟩ :=
    allocate_becomes reached.exact amount_exact (reached.draw_small bounded)
  rw [after_eq, Attempt.after_complete] at same
  have remaining_eq : after.remaining.ticks = now.remaining.ticks - amount.ticks :=
    congrArg Fund.remaining after_fund
  have allocated_eq : after.allocated.ticks = now.allocated.ticks + amount.ticks :=
    congrArg Fund.allocated after_fund
  have balance := reached.balance
  have allocated_le := reached.allocated_le
  rw [after_eq]
  refine ⟨⟨exact, same.trans reached.reset_eq, ?_, ?_⟩, rfl⟩
  · rw [Attempt.after_complete, initial_of_reset same, remaining_eq, allocated_eq]
    omega
  · rw [Attempt.after_complete, allocated_eq]
    omega

theorem Reached.allocate_refused (reached : start.Reached spent now)
    (foreign : amount.currency ≠ now.currency) : now.allocate amount =
      ⟨now, some (.currencyMismatch .sum now.currency amount.currency)⟩ := by
  rw [Payment.allocate, Money.add_refused reached.exact.allocated.currency_eq foreign]
  rfl

/-- An amount keeps what is reached, and it is recorded or refused as its currency says. -/
theorem Reached.step (reached : start.Reached spent now) (grid : amount.amount.OnGrid)
    (bounded : now.Bounded (spent + amount.ticks.natAbs)) :
    start.Reached (spent + amount.ticks.natAbs) (now.allocate amount).after ∧
      now.Obeys amount := by
  by_cases same : amount.currency = now.currency
  · obtain ⟨after, completes⟩ := reached.allocate ⟨same, grid⟩ bounded
    exact ⟨after, fun _ => completes, fun foreign => absurd same foreign⟩
  · have refused := reached.allocate_refused same
    refine ⟨?_, fun completes => absurd completes same, fun _ => refused⟩
    rw [refused]
    exact
      { reached with allocated_le := reached.allocated_le.trans (Nat.le_add_right _ _) }

/-! ## What a payment that has been reached shows -/

theorem Reached.balanced (reached : start.Reached spent now) (bounded : now.Bounded spent) :
    now.isBalanced = true := by
  have balance := reached.balance
  have allocated_le := reached.allocated_le
  unfold Bounded at bounded
  obtain ⟨expected, expected_eq, expected_exact, expected_ticks⟩ :=
    Money.sub_gives reached.exact.initial reached.exact.allocated (by omega)
  have same : now.remaining.SameValue expected := by
    rw [reached.exact.remaining.sameValue_iff expected_exact]
    omega
  simp only [isBalanced, expected_eq, Money.agrees, same, decide_true]

/-- Recording an amount leaves open what it would have left open. -/
theorem Reached.recorded (reached : start.Reached spent now)
    (amount_exact : amount.Exact now.currency)
    (bounded : now.Bounded (spent + amount.ticks.natAbs)) :
    ∃ after before_open after_open, now.allocate amount = .complete after ∧
      now.projected amount = .ok before_open ∧
      after.projected (Money.zero now.currency) = .ok after_open ∧
      before_open.SameValue after_open := by
  have small := reached.draw_small bounded
  obtain ⟨before_open, before_eq, before_exact, before_ticks⟩ :=
    projected_gives reached.exact amount_exact
      (reached.small (bounded.mono (Nat.le_add_right _ _))) small
  obtain ⟨after, after_eq, after_exact, after_fund⟩ :=
    allocate_becomes reached.exact amount_exact small
  have currency_eq : after.currency = now.currency :=
    congrArg (fun fund : Fund => fund.currency) after_fund
  have zero_exact : (Money.zero now.currency).Exact after.currency :=
    currency_eq ▸ Money.exact_zero _
  have no_ticks := Money.ticks_zero now.currency
  rw [← after_fund] at small
  obtain ⟨after_open, after_open_eq, after_open_exact, after_ticks⟩ :=
    projected_gives after_exact zero_exact small (by rwa [no_ticks, Fund.draw_zero])
  refine ⟨after, before_open, after_open, after_eq, before_eq, after_open_eq, ?_⟩
  rw [before_exact.sameValue_iff (currency_eq ▸ after_open_exact), before_ticks, after_ticks,
    after_fund, no_ticks]
  simp only [Fund.projected, Fund.allocated_draw, Fund.terms_draw]
  omega

theorem Reached.consistent (reached : start.Reached spent now)
    (amount_exact : amount.Exact now.currency)
    (bounded : now.Bounded (spent + amount.ticks.natAbs)) : start.Consistent amount now := by
  have exact := reached.exact
  have balance := reached.balance
  have before := bounded.mono (Nat.le_add_right _ _)
  exact
    { initial_eq := reached.initial_eq
      openAmount_eq := reached.openAmount_eq
      currency_eq := reached.currency_eq
      remaining_currency := exact.remaining.currency_eq
      remaining_eq := by
        rw [exact.remaining.value_eq, exact.initial.value_eq, exact.allocated.value_eq, ← sub_div,
          ← balance]
        push_cast
        ring
      balanced := reached.balanced before
      projected := by
        apply (projected_gives exact amount_exact (reached.small before)
          (reached.draw_small bounded)).yields
        rw [exact.openAmount.value_eq, exact.initial.value_eq, exact.remaining.value_eq,
          amount_exact.value_eq, ← sub_div, ← add_div, ← sub_div, ← balance]
        change _ = ((now.openAmount.ticks - now.allocated.ticks - amount.ticks : Int) : Rat) / _
        push_cast
        ring
      recorded := reached.recorded amount_exact bounded }

/-! ## Runs -/

/-- What a payment has become has the same terms, so it is bounded alike. -/
theorem Reached.bounded (reached : start.Reached spent now) {total : Nat}
    (bounded : start.Bounded total) : now.Bounded total := by
  rwa [Bounded, reached.openAmount_eq, reached.initial_eq]

theorem Fresh.reached_recorded (fresh : start.Fresh) {amounts : List Money}
    (grid : ∀ amount ∈ amounts, amount.amount.OnGrid)
    (bounded : start.Bounded (amounts.map fun amount => amount.ticks.natAbs).sum) :
    start.Reached (amounts.map fun amount => amount.ticks.natAbs).sum
      (start.recorded amounts) := by
  induction amounts using List.reverseRecOn with
  | nil => exact fresh.reached
  | append_singleton taken amount ih =>
      rw [List.map_append, List.sum_append, List.map_singleton, List.sum_singleton]
        at bounded ⊢
      have reached := ih (fun other mem => grid other (by simp [mem]))
        (bounded.mono (Nat.le_add_right _ _))
      rw [recorded_concat]
      exact (reached.step (grid amount (by simp)) (reached.bounded bounded)).1

end

variable {payment : Payment} {amounts taken : List Money} {amount : Money}

theorem HasRoom.bounded (room : payment.HasRoom amounts amount) :
    payment.Bounded
      ((amounts.map fun recorded => recorded.ticks.natAbs).sum + amount.ticks.natAbs) := by
  have fresh := room.fresh
  have small := room.small
  rw [Decimal.abs_value fresh.open_places, Decimal.abs_value fresh.places,
    sum_map_ticks fun recorded mem => Decimal.abs_value (room.amounts_grid recorded mem),
    Decimal.abs_value room.amount_exact.grid, ← add_div, ← add_div, ← add_div,
    div_lt_div_iff_of_pos_right (by norm_num)] at small
  have limit_eq : coefficientLimit = 2 ^ 96 := rfl
  rw [Bounded, limit_eq, ← Nat.add_assoc]
  exact_mod_cast small

/-- A history that is cut off has room as well. -/
theorem HasRoom.cut (room : payment.HasRoom amounts amount) (begun : taken <+: amounts) :
    (∀ recorded ∈ taken, recorded.amount.OnGrid) ∧
      payment.Bounded
        ((taken.map fun recorded => recorded.ticks.natAbs).sum + amount.ticks.natAbs) := by
  obtain ⟨rest, rfl⟩ := begun
  refine ⟨fun recorded mem => room.amounts_grid recorded (List.mem_append_left rest mem), ?_⟩
  apply room.bounded.mono
  rw [List.map_append, List.sum_append]
  omega

theorem HasRoom.reached (room : payment.HasRoom amounts amount) (begun : taken <+: amounts) :
    payment.Reached (taken.map fun recorded => recorded.ticks.natAbs).sum
      (payment.recorded taken) := by
  obtain ⟨grid, bounded⟩ := room.cut begun
  exact room.fresh.reached_recorded grid (bounded.mono (Nat.le_add_right _ _))

theorem HasRoom.consistent (room : payment.HasRoom amounts amount) (begun : taken <+: amounts) :
    payment.Consistent amount (payment.recorded taken) := by
  have reached := room.reached begun
  exact reached.consistent (reached.currency_eq ▸ room.amount_exact)
    (reached.bounded (room.cut begun).2)

theorem HasRoom.obeys (room : payment.HasRoom amounts amount) {next : Money}
    (begun : taken ++ [next] <+: amounts) : (payment.recorded taken).Obeys next := by
  obtain ⟨grid, bounded⟩ := room.cut begun
  have reached := room.reached ((List.prefix_append taken [next]).trans begun)
  rw [List.map_append, List.sum_append, List.map_singleton, List.sum_singleton] at bounded
  exact (reached.step (grid next (by simp))
    (reached.bounded (bounded.mono (Nat.le_add_right _ _)))).2

end Payment

end Settlement
