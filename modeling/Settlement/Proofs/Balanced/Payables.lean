import Settlement.Checks
import Settlement.Proofs.Balanced.Amounts
import Settlement.Proofs.Balances
import Settlement.Proofs.Resets

/-!
# Histories of a payable

A payable that has just been drawn up stays in balance whatever is recorded on it afterwards: in
total, what is left is what it started with, less what has been allocated.  Moving what is left to
pay changes the parts of what is left but not their total, and amounts in another currency are
refused before they change anything.
-/

namespace Settlement

namespace Payable

/-- A change of the balances of a payable. -/
inductive Change where
  /-- Signed amounts are allocated. -/
  | allocate (amounts : Amounts)
  /-- What is left to pay becomes discount. -/
  | toDiscount
  /-- What is left to pay is written off. -/
  | toWriteOff
  deriving DecidableEq, Repr

namespace Change

/-- Makes the change, as far as it comes. -/
def apply (change : Change) (payable : Payable) : Attempt Payable :=
  match change with
  | allocate amounts => payable.allocate amounts
  | toDiscount => payable.remainderToDiscount
  | toWriteOff => payable.remainderToWriteOff

/-- The amounts that the change brings in are in a currency. -/
def UsesOnly (currency : Currency) : Change → Prop
  | allocate amounts => amounts.UsesOnly currency
  | toDiscount | toWriteOff => True

/-- The amounts that the change brings in have at most four fraction digits. -/
def OnGrid : Change → Prop
  | allocate amounts => amounts.OnGrid
  | toDiscount | toWriteOff => True

/-- What the change brings in without signs. -/
def magnitude : Change → Rat
  | allocate amounts => amounts.magnitude
  | toDiscount | toWriteOff => 0

/-- What the change brings in without signs, in ticks. -/
def weight : Change → Nat
  | allocate amounts => amounts.parts.magnitude
  | toDiscount | toWriteOff => 0

theorem OnGrid.magnitude_eq {change : Change} (grid : change.OnGrid) :
    change.magnitude = (change.weight : Rat) / 10 ^ 4 := by
  cases change with
  | allocate amounts => exact Amounts.OnGrid.magnitude_eq grid
  | toDiscount => simp [magnitude, weight]
  | toWriteOff => simp [magnitude, weight]

/-- The change comes to its end where what it brings in is in the currency of the payable; else
two currencies meet and the payable is left as it was. -/
structure Obeys (change : Change) (payable : Payable) : Prop where
  completes : change.UsesOnly payable.currency → (change.apply payable).fault? = none
  refused : ¬change.UsesOnly payable.currency → ∃ other ≠ payable.currency,
    change.apply payable = ⟨payable, some (.currencyMismatch .sum payable.currency other)⟩

end Change

/-- The payable after changes, each tried on what the one before it left. -/
def changed (payable : Payable) (changes : List Change) : Payable :=
  changes.foldl (fun now change => (change.apply now).after) payable

theorem changed_concat (payable : Payable) (taken : List Change) (change : Change) :
    payable.changed (taken ++ [change]) = (change.apply (payable.changed taken)).after := by
  rw [changed, List.foldl_append]
  rfl

/-- The payable keeps its terms and its balance, and amounts would leave open what the balance
says, before they are recorded and after. -/
structure Consistent (start : Payable) (amounts : Amounts) (now : Payable) : Prop where
  initial_eq : now.initial = start.initial
  openAmount_eq : now.openAmount = start.openAmount
  currency_eq : now.currency = start.currency
  initial_total : Money.Yields now.currency now.initial.value now.initial.total
  allocated_total : Money.Yields now.currency now.allocated.value now.allocated.total
  remaining_total : Money.Yields now.currency now.remaining.value now.remaining.total
  amounts_total : Money.Yields now.currency amounts.value amounts.total
  balance : now.remaining.value = now.initial.value - now.allocated.value
  balanced : now.isBalanced = true
  projected : Money.Yields now.currency
    (now.openAmount.amount.value - now.initial.value + now.remaining.value - amounts.value)
    (now.projected amounts)
  recorded : ∃ after before_open after_open, now.allocate amounts = .complete after ∧
    now.projected amounts = .ok before_open ∧
    after.projected (Amounts.zero now.currency) = .ok after_open ∧
    before_open.SameValue after_open

/-- A fresh payable with a history and with amounts to project, all small together. -/
structure HasRoom (payable : Payable) (changes : List Change) (amounts : Amounts) : Prop where
  fresh : payable.Fresh
  changes_grid : ∀ change ∈ changes, change.OnGrid
  amounts_currency : amounts.UsesOnly payable.currency
  amounts_grid : amounts.OnGrid
  small : |payable.openAmount.amount.value| + payable.initial.magnitude +
    (changes.map Change.magnitude).sum + amounts.magnitude < 2 ^ 96 / 10 ^ 4

/-- A payable that was started with and has come this far: its balances have grown by no more than
what has been spent on changes, in ticks. -/
structure Reached (start : Payable) (spent : Nat) (now : Payable) : Prop where
  exact : now.Exact
  reset_eq : now.reset = start.reset
  balance : now.remaining.parts.total + now.allocated.parts.total = now.initial.parts.total
  allocated_le : now.allocated.parts.magnitude ≤ spent
  remaining_le : now.remaining.parts.magnitude ≤ now.initial.parts.magnitude + spent

/-- What is counted from the payable and from what has been spent is small. -/
def Bounded (payable : Payable) (spent : Nat) : Prop :=
  payable.openAmount.ticks.natAbs + payable.initial.parts.magnitude + spent < coefficientLimit

section

variable {start now : Payable} {spent : Nat} {amounts : Amounts} {change : Change}

theorem Reached.initial_eq (reached : start.Reached spent now) : now.initial = start.initial :=
  initial_of_reset reached.reset_eq

theorem Reached.openAmount_eq (reached : start.Reached spent now) :
    now.openAmount = start.openAmount :=
  openAmount_of_reset reached.reset_eq

theorem Reached.currency_eq (reached : start.Reached spent now) : now.currency = start.currency :=
  congrArg Amounts.currency reached.initial_eq

theorem Fresh.reached (fresh : start.Fresh) : start.Reached 0 start where
  exact := fresh.exact
  reset_eq := rfl
  balance := by
    have allocated_eq : start.allocated.parts = 0 := fresh.debt_allocated
    rw [fresh.untouched.remaining_eq, allocated_eq]
    exact Int.add_zero _
  allocated_le := Nat.le_of_eq (congrArg Parts.magnitude fresh.debt_allocated)
  remaining_le := by rw [fresh.untouched.remaining_eq, Nat.add_zero]

theorem Bounded.mono {spent' : Nat} (bounded : now.Bounded spent') (le : spent ≤ spent') :
    now.Bounded spent :=
  Nat.lt_of_le_of_lt (Nat.add_le_add_left le _) bounded

theorem Reached.small (reached : start.Reached spent now) (bounded : now.Bounded spent) :
    now.debt.Small := by
  have allocated_le := reached.allocated_le
  have remaining_le := reached.remaining_le
  unfold Bounded at bounded
  refine ⟨?_, ?_⟩
  · change now.openAmount.ticks.natAbs + now.allocated.parts.magnitude < coefficientLimit
    omega
  · change now.openAmount.ticks.natAbs + now.remaining.parts.magnitude < coefficientLimit
    omega

theorem Reached.charge_small (reached : start.Reached spent now)
    (bounded : now.Bounded (spent + amounts.parts.magnitude)) :
    (now.debt.charge amounts.parts).Small := by
  have allocated_le := reached.allocated_le
  have remaining_le := reached.remaining_le
  have allocated_add := now.allocated.parts.magnitude_add_le amounts.parts
  have remaining_sub := now.remaining.parts.magnitude_sub_le amounts.parts
  unfold Bounded at bounded
  refine ⟨?_, ?_⟩
  · change now.openAmount.ticks.natAbs + (now.allocated.parts + amounts.parts).magnitude < _
    omega
  · change now.openAmount.ticks.natAbs + (now.remaining.parts - amounts.parts).magnitude < _
    omega

/-! ## Steps -/

/-- What a payable has become is reached when its balances are. -/
theorem Reached.becomes (reached : start.Reached spent now) {debt : Debt} {spent' : Nat}
    {attempt : Attempt Payable} (becomes : Becomes debt attempt)
    (same : attempt.after.reset = now.reset)
    (balance : debt.remaining.total + debt.allocated.total = now.initial.parts.total)
    (allocated_le : debt.allocated.magnitude ≤ spent')
    (remaining_le : debt.remaining.magnitude ≤ now.initial.parts.magnitude + spent') :
    start.Reached spent' attempt.after ∧ attempt.fault? = none := by
  obtain ⟨after, rfl, exact, rfl⟩ := becomes
  rw [← initial_of_reset same] at balance remaining_le
  exact ⟨⟨exact, same.trans reached.reset_eq, balance, allocated_le, remaining_le⟩, rfl⟩

theorem Reached.allocate (reached : start.Reached spent now)
    (amounts_exact : amounts.Exact now.currency)
    (bounded : now.Bounded (spent + amounts.parts.magnitude)) :
    start.Reached (spent + amounts.parts.magnitude) (now.allocate amounts).after ∧
      (now.allocate amounts).fault? = none := by
  have balance := reached.balance
  have remaining_le := reached.remaining_le
  have allocated_add := now.allocated.parts.magnitude_add_le amounts.parts
  have remaining_sub := now.remaining.parts.magnitude_sub_le amounts.parts
  apply reached.becomes
    (allocate_becomes reached.exact amounts_exact (reached.charge_small bounded))
    (now.reset_allocate amounts)
  · change (now.remaining.parts - amounts.parts).total +
      (now.allocated.parts + amounts.parts).total = _
    rw [Parts.total_sub, Parts.total_add]
    omega
  · exact allocated_add.trans (Nat.add_le_add_right reached.allocated_le _)
  · exact remaining_sub.trans (by omega)

/-- Moving what is left to pay keeps the total of what is left. -/
theorem Reached.moved (reached : start.Reached spent now) (bounded : now.Bounded spent)
    {policy : LeftoverPolicy} {move : Attempt Payable}
    (moves : Progress.moved policy now = some move) :
    start.Reached spent move.after ∧ move.fault? = none := by
  have not_open : policy ≠ .leaveOpen := by
    rintro rfl
    cases moves
  obtain ⟨_, moves', becomes⟩ :=
    moved_becomes reached.exact (reached.small bounded) not_open
  cases moves.symm.trans moves'
  apply reached.becomes becomes (reset_moved moves)
  · rw [Debt.total_remaining_move, Debt.allocated_move]
    exact reached.balance
  · rw [Debt.allocated_move]
    exact reached.allocated_le
  · exact (now.debt.magnitude_remaining_move_le policy).trans reached.remaining_le

/-- Amounts with a part in another currency are not recorded. -/
theorem Reached.allocate_refused (reached : start.Reached spent now) (grid : amounts.OnGrid)
    (foreign : ¬amounts.UsesOnly now.currency)
    (bounded : now.Bounded (spent + amounts.parts.magnitude)) :
    ∃ other ≠ now.currency, now.allocate amounts =
      ⟨now, some (.currencyMismatch .sum now.currency other)⟩ := by
  have allocated_le := reached.allocated_le
  have allocated_add := now.allocated.parts.magnitude_add_le amounts.parts
  unfold Bounded at bounded
  obtain ⟨other, other_ne, refused⟩ :=
    Amounts.add_refused reached.exact.allocated grid foreign (by omega)
  refine ⟨other, other_ne, ?_⟩
  rw [Payable.allocate, refused]
  rfl

/-- A change keeps what is reached, and it is made or refused as its currency says. -/
theorem Reached.step (reached : start.Reached spent now) (grid : change.OnGrid)
    (bounded : now.Bounded (spent + change.weight)) :
    start.Reached (spent + change.weight) (change.apply now).after ∧ change.Obeys now := by
  cases change with
  | allocate amounts =>
      by_cases single : amounts.UsesOnly now.currency
      · obtain ⟨after, completes⟩ := reached.allocate (single.exact grid) bounded
        exact ⟨after, fun _ => completes, fun foreign => absurd single foreign⟩
      · obtain ⟨other, other_ne, refused⟩ := reached.allocate_refused grid single bounded
        refine ⟨?_, fun completes => absurd completes single, fun _ => ⟨other, other_ne, refused⟩⟩
        rw [Change.apply, refused]
        exact
          { reached with
            allocated_le := reached.allocated_le.trans (Nat.le_add_right _ _)
            remaining_le := reached.remaining_le.trans
              (Nat.add_le_add_left (Nat.le_add_right _ _) _) }
  | toDiscount =>
      obtain ⟨after, completes⟩ := reached.moved bounded
        (show Progress.moved .discount now = some now.remainderToDiscount from rfl)
      exact ⟨after, fun _ => completes, fun foreign => absurd trivial foreign⟩
  | toWriteOff =>
      obtain ⟨after, completes⟩ := reached.moved bounded
        (show Progress.moved .writeOff now = some now.remainderToWriteOff from rfl)
      exact ⟨after, fun _ => completes, fun foreign => absurd trivial foreign⟩

/-! ## What a payable that has been reached shows -/

theorem Reached.balanced (reached : start.Reached spent now) (bounded : now.Bounded spent) :
    now.isBalanced = true := by
  have balance := reached.balance
  have allocated_le := reached.allocated_le
  have remaining_le := reached.remaining_le
  have remaining_total := now.remaining.parts.natAbs_total_le
  unfold Bounded at bounded
  obtain ⟨remaining, remaining_eq, remaining_exact, remaining_ticks⟩ :=
    Amounts.total_gives reached.exact.remaining (by omega)
  obtain ⟨initial, initial_eq, initial_exact, initial_ticks⟩ :=
    Amounts.total_gives reached.exact.initial (by omega)
  obtain ⟨allocated, allocated_eq, allocated_exact, allocated_ticks⟩ :=
    Amounts.total_gives reached.exact.allocated (by omega)
  obtain ⟨expected, expected_eq, expected_exact, expected_ticks⟩ :=
    Money.sub_gives initial_exact allocated_exact (by omega)
  have same : remaining.SameValue expected := by
    rw [remaining_exact.sameValue_iff expected_exact]
    omega
  simp only [isBalanced, expectedRemainder, remaining_eq, initial_eq, allocated_eq, ok_bind,
    expected_eq, Money.agrees, same, decide_true]

/-- What would stay open is counted from the open amount and all that has been allocated. -/
theorem Reached.projected (reached : start.Reached spent now)
    (amounts_exact : amounts.Exact now.currency)
    (bounded : now.Bounded (spent + amounts.parts.magnitude)) :
    Money.Gives now.currency (now.debt.projected amounts.parts) (now.projected amounts) := by
  have amounts_small : amounts.parts.magnitude < coefficientLimit := by
    unfold Bounded at bounded
    omega
  exact projected_gives reached.exact amounts_exact
    (reached.small (bounded.mono (Nat.le_add_right _ _))) (reached.charge_small bounded)
    amounts_small

/-- Recording amounts leaves open what they would have left open. -/
theorem Reached.recorded (reached : start.Reached spent now)
    (amounts_exact : amounts.Exact now.currency)
    (bounded : now.Bounded (spent + amounts.parts.magnitude)) :
    ∃ after before_open after_open, now.allocate amounts = .complete after ∧
      now.projected amounts = .ok before_open ∧
      after.projected (Amounts.zero now.currency) = .ok after_open ∧
      before_open.SameValue after_open := by
  obtain ⟨before_open, before_eq, before_exact, before_ticks⟩ :=
    reached.projected amounts_exact bounded
  have small := reached.charge_small bounded
  obtain ⟨after, after_eq, after_exact, after_debt⟩ :=
    allocate_becomes reached.exact amounts_exact small
  have currency_eq : after.currency = now.currency :=
    congrArg (fun debt : Debt => debt.currency) after_debt
  have zero_exact : (Amounts.zero now.currency).Exact after.currency :=
    currency_eq ▸ Amounts.exact_zero _
  have no_parts := Amounts.parts_zero now.currency
  rw [← after_debt] at small
  obtain ⟨after_open, after_open_eq, after_open_exact, after_ticks⟩ :=
    projected_gives after_exact zero_exact small
      (by rwa [no_parts, Debt.charge_zero]) (by rw [no_parts]; decide)
  refine ⟨after, before_open, after_open, after_eq, before_eq, after_open_eq, ?_⟩
  rw [before_exact.sameValue_iff (currency_eq ▸ after_open_exact), before_ticks, after_ticks,
    after_debt, no_parts]
  simp only [Debt.projected, Debt.allocated_charge, Debt.terms_charge, Parts.total_add,
    Parts.total_zero]
  omega

theorem Reached.consistent (reached : start.Reached spent now)
    (amounts_exact : amounts.Exact now.currency)
    (bounded : now.Bounded (spent + amounts.parts.magnitude)) : start.Consistent amounts now := by
  have exact := reached.exact
  have balance := reached.balance
  have before := bounded.mono (Nat.le_add_right _ _)
  have allocated_le := reached.allocated_le
  have remaining_le := reached.remaining_le
  have limit := bounded
  unfold Bounded at limit
  have total_yields : ∀ {part : Amounts}, part.Exact now.currency →
      part.parts.magnitude < coefficientLimit →
      Money.Yields now.currency part.value part.total :=
    fun part_exact part_small => (Amounts.total_gives part_exact part_small).yields
      part_exact.value_eq
  exact
    { initial_eq := reached.initial_eq
      openAmount_eq := reached.openAmount_eq
      currency_eq := reached.currency_eq
      initial_total := total_yields exact.initial (by omega)
      allocated_total := total_yields exact.allocated (by omega)
      remaining_total := total_yields exact.remaining (by omega)
      amounts_total := total_yields amounts_exact (by omega)
      balance := by
        rw [exact.remaining.value_eq, exact.initial.value_eq, exact.allocated.value_eq, ← sub_div,
          ← balance]
        push_cast
        ring
      balanced := reached.balanced before
      projected := by
        apply (reached.projected amounts_exact bounded).yields
        rw [exact.openAmount.value_eq, exact.initial.value_eq, exact.remaining.value_eq,
          amounts_exact.value_eq, ← sub_div, ← add_div, ← sub_div, ← balance]
        change _ = ((now.openAmount.ticks - now.allocated.parts.total - amounts.parts.total : Int)
          : Rat) / _
        push_cast
        ring
      recorded := reached.recorded amounts_exact bounded }

/-! ## Runs -/

/-- What a payable has become has the same terms, so it is bounded alike. -/
theorem Reached.bounded (reached : start.Reached spent now) {total : Nat}
    (bounded : start.Bounded total) : now.Bounded total := by
  rwa [Bounded, reached.openAmount_eq, reached.initial_eq]

theorem Fresh.reached_changed (fresh : start.Fresh) {changes : List Change}
    (grid : ∀ change ∈ changes, change.OnGrid)
    (bounded : start.Bounded (changes.map Change.weight).sum) :
    start.Reached (changes.map Change.weight).sum (start.changed changes) := by
  induction changes using List.reverseRecOn with
  | nil => exact fresh.reached
  | append_singleton taken change ih =>
      rw [List.map_append, List.sum_append, List.map_singleton, List.sum_singleton]
        at bounded ⊢
      have reached := ih (fun other mem => grid other (by simp [mem]))
        (bounded.mono (Nat.le_add_right _ _))
      rw [changed_concat]
      exact (reached.step (grid change (by simp)) (reached.bounded bounded)).1

end

variable {payable : Payable} {changes taken : List Change} {amounts : Amounts}

theorem HasRoom.bounded (room : payable.HasRoom changes amounts) :
    payable.Bounded ((changes.map Change.weight).sum + amounts.parts.magnitude) := by
  have fresh := room.fresh
  have small := room.small
  rw [Decimal.abs_value fresh.open_places, fresh.exact.initial.onGrid.magnitude_eq,
    sum_map_ticks fun change mem => (room.changes_grid change mem).magnitude_eq,
    room.amounts_grid.magnitude_eq, ← add_div, ← add_div, ← add_div,
    div_lt_div_iff_of_pos_right (by norm_num)] at small
  have limit_eq : coefficientLimit = 2 ^ 96 := rfl
  rw [Bounded, limit_eq, ← Nat.add_assoc]
  exact_mod_cast small

/-- A history that is cut off has room as well. -/
theorem HasRoom.cut (room : payable.HasRoom changes amounts) (begun : taken <+: changes) :
    (∀ change ∈ taken, change.OnGrid) ∧
      payable.Bounded ((taken.map Change.weight).sum + amounts.parts.magnitude) := by
  obtain ⟨rest, rfl⟩ := begun
  refine ⟨fun change mem => room.changes_grid change (List.mem_append_left rest mem), ?_⟩
  apply room.bounded.mono
  rw [List.map_append, List.sum_append]
  omega

theorem HasRoom.reached (room : payable.HasRoom changes amounts) (begun : taken <+: changes) :
    payable.Reached (taken.map Change.weight).sum (payable.changed taken) := by
  obtain ⟨grid, bounded⟩ := room.cut begun
  exact room.fresh.reached_changed grid (bounded.mono (Nat.le_add_right _ _))

theorem HasRoom.consistent (room : payable.HasRoom changes amounts) (begun : taken <+: changes) :
    payable.Consistent amounts (payable.changed taken) := by
  have reached := room.reached begun
  have amounts_exact := room.amounts_currency.exact room.amounts_grid
  rw [← reached.currency_eq] at amounts_exact
  exact reached.consistent amounts_exact (reached.bounded (room.cut begun).2)

theorem HasRoom.obeys (room : payable.HasRoom changes amounts) {change : Change}
    (begun : taken ++ [change] <+: changes) : change.Obeys (payable.changed taken) := by
  obtain ⟨grid, bounded⟩ := room.cut begun
  have reached := room.reached ((List.prefix_append taken [change]).trans begun)
  rw [List.map_append, List.sum_append, List.map_singleton, List.sum_singleton] at bounded
  exact (reached.step (grid change (by simp))
    (reached.bounded (bounded.mono (Nat.le_add_right _ _)))).2

end Payable

end Settlement
