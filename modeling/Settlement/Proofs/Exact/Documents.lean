import Settlement.Proofs.Exact.Soundness

/-!
# Documents read as a book

Documents whose amounts are exact are read as a book: a debt for each payable, a fund for each
payment, a source for each document that acts as a payment.  What is recorded on a document while
its balances stay small is recorded on what it is read as, and no fault cuts it short.
-/

namespace Settlement

/-! ## Computations that nothing stops -/

@[simp]
theorem ok_bind {ε α β : Type} (value : α) (next : α → Except ε β) :
    (Except.ok value >>= next) = next value := rfl

/-- Computations in a row succeed when each of them does. -/
theorem bind_eq_ok {ε α β : Type} {first : Except ε α} {next : α → Except ε β} {result : β} :
    (first >>= next) = .ok result ↔ ∃ value, first = .ok value ∧ next value = .ok result := by
  cases first <;> simp [bind, Except.bind]

theorem exists_eq_ok {ε α : Type} {computed : Except ε α}
    (present : computed.toOption.isSome = true) : ∃ value, computed = .ok value := by
  cases computed with
  | error error => cases present
  | ok value => exact ⟨value, rfl⟩

/-- A computation over a list succeeds when it does for each of its entries. -/
theorem mapM_eq_ok {ε α β : Type} {compute : α → Except ε β} {entries : List α}
    {results : List β} :
    entries.mapM compute = .ok results ↔
      List.Forall₂ (fun entry result => compute entry = .ok result) entries results := by
  induction entries generalizing results with
  | nil =>
      rw [List.mapM_nil, List.forall₂_nil_left_iff]
      exact ⟨fun same => (Except.ok.inj same).symm, fun same => congrArg Except.ok same.symm⟩
  | cons entry rest ih =>
      rw [List.mapM_cons, bind_eq_ok, List.forall₂_cons_left_iff]
      refine exists_congr fun result => ?_
      rw [bind_eq_ok]
      constructor
      · rintro ⟨result_eq, tail, tail_eq, same⟩
        exact ⟨tail, result_eq, ih.mp tail_eq, (Except.ok.inj same).symm⟩
      · rintro ⟨tail, result_eq, tail_made, rfl⟩
        exact ⟨result_eq, tail, ih.mpr tail_made, rfl⟩

@[simp]
theorem orBroken_ok {α : Type} (value : α) : orBroken (.ok value) = .ok value := rfl

namespace Attempt

variable {α β : Type}

@[simp]
theorem andThen_complete (after : α) (next : α → Attempt α) :
    (complete after).andThen next = next after := rfl

@[simp]
theorem map_complete (wrap : α → β) (after : α) :
    (complete after).map wrap = complete (wrap after) := rfl

@[simp]
theorem assign_ok (object : α) (value : β) (put : β → α) :
    assign object (.ok value) put = complete (put value) := rfl

@[simp]
theorem after_complete (object : α) : (complete object).after = object := rfl

end Attempt

/-! ## Small balances -/

/-- The balances of a debt are small, each together with the open amount. -/
structure Debt.Small (debt : Debt) : Prop where
  allocated : debt.openAmount.natAbs + debt.allocated.magnitude < coefficientLimit
  remaining : debt.openAmount.natAbs + debt.remaining.magnitude < coefficientLimit

theorem Debt.Sound.balances_small {policy : LeftoverPolicy} {debt : Debt}
    (sound : debt.Sound policy) : debt.Small :=
  ⟨sound.allocated_small, sound.remaining_small⟩

/-- Moving what is left to pay keeps the balances small. -/
theorem Debt.Small.move {debt : Debt} (small : debt.Small) (policy : LeftoverPolicy) :
    (debt.move policy).Small := by
  have magnitude_le := debt.magnitude_remaining_move_le policy
  refine ⟨?_, ?_⟩
  · rw [allocated_move, terms_move]
    exact small.allocated
  · rw [terms_move]
    exact Nat.lt_of_le_of_lt (Nat.add_le_add_left magnitude_le _) small.remaining

theorem Book.offer_small (source : Source) {debt : Debt} (small : debt.Small) :
    (Book.offer debt source).magnitude < coefficientLimit := by
  have share_le := (source.share_within_debt debt).natAbs_le
  have remaining := small.remaining
  simp only [Book.offer, Parts.magnitude] at remaining ⊢
  omega

theorem Source.share_small (source : Source) {debt : Debt} (small : debt.Small) :
    (source.share debt).natAbs < coefficientLimit := by
  have share_le := (source.share_within_debt debt).natAbs_le
  have remaining := small.remaining
  simp only [Parts.magnitude] at remaining
  omega

/-- The balances of a fund are small, each together with the open amount. -/
structure Fund.Small (fund : Fund) : Prop where
  allocated : fund.openAmount.natAbs + fund.allocated.natAbs < coefficientLimit
  remaining : fund.openAmount.natAbs + fund.remaining.natAbs < coefficientLimit

theorem Fund.Sound.balances_small {fund : Fund} (sound : fund.Sound) : fund.Small := by
  have small := sound.small
  have allocated_le := sound.allocated_within.natAbs_le
  have remaining_le := sound.remaining_within.natAbs_le
  exact ⟨by omega, by omega⟩

/-- The balances of a document that acts as a payment are small. -/
def Source.Small : Source → Prop
  | fund document => document.Small
  | creditMemo document | purchaseInvoice document => document.Small

theorem Book.Sound.source_small {policy : LeftoverPolicy} {book : Book}
    (sound : book.Sound policy) {means : Means} {source : Source}
    (source_eq : book.source? means = some source) : source.Small := by
  cases means with
  | payment index =>
      obtain ⟨fund, fund_eq, rfl⟩ := Option.map_eq_some_iff.mp source_eq
      exact (sound.fund fund_eq).balances_small
  | creditMemo index =>
      obtain ⟨debt, debt_eq, rfl⟩ := Option.map_eq_some_iff.mp source_eq
      exact (sound.debt debt_eq).balances_small
  | purchaseInvoice index =>
      obtain ⟨debt, debt_eq, rfl⟩ := Option.map_eq_some_iff.mp source_eq
      exact (sound.debt debt_eq).balances_small

/-! ## Payables -/

namespace Payable

/-- All amounts of the payable are exact in its currency. -/
structure Exact (payable : Payable) : Prop where
  openAmount : payable.openAmount.Exact payable.currency
  initial : payable.initial.Exact payable.currency
  remaining : payable.remaining.Exact payable.currency
  allocated : payable.allocated.Exact payable.currency

/-- The payable in ticks. -/
def debt (payable : Payable) : Debt where
  kind := payable.kind
  organization := payable.organization
  partner := payable.partner
  side := payable.side
  creditMemo := payable.creditMemo
  reference := payable.reference
  currency := payable.currency
  openAmount := payable.openAmount.ticks
  initial := payable.initial.parts
  remaining := payable.remaining.parts
  allocated := payable.allocated.parts

/-- A change of a payable comes to its end and leaves an exact payable that is read as a debt. -/
def Becomes (debt : Debt) (attempt : Attempt Payable) : Prop :=
  ∃ changed, attempt = .complete changed ∧ changed.Exact ∧ changed.debt = debt

theorem isFullyAllocated_iff (payable : Payable) :
    payable.isFullyAllocated = true ↔ ¬payable.debt.IsOpen := by
  rw [isFullyAllocated, Money.isZero_iff, not_not]
  rfl

/-- An allocation after which what is left and what has been allocated are small is recorded in
full, whatever the open amount is. -/
theorem allocate_recorded {payable : Payable} (exact : payable.Exact) {amounts : Amounts}
    (amounts_exact : amounts.Exact payable.currency)
    (allocated_small : (payable.allocated.parts + amounts.parts).magnitude < coefficientLimit)
    (remaining_small : (payable.remaining.parts - amounts.parts).magnitude < coefficientLimit) :
    Becomes (payable.debt.charge amounts.parts) (payable.allocate amounts) := by
  obtain ⟨allocated, allocated_eq, allocated_exact, allocated_parts⟩ :=
    Amounts.add_gives exact.allocated amounts_exact allocated_small
  obtain ⟨remaining, remaining_eq, remaining_exact, remaining_parts⟩ :=
    Amounts.sub_gives exact.remaining amounts_exact remaining_small
  refine ⟨{ payable with allocated, remaining }, ?_,
    ⟨exact.openAmount, exact.initial, remaining_exact, allocated_exact⟩, ?_⟩
  · rw [allocate, allocated_eq, Attempt.assign_ok, Attempt.andThen_complete]
    simp only [remaining_eq, Attempt.assign_ok]
  · simp only [debt, Debt.charge, allocated_parts, remaining_parts]
    rfl

/-- An allocation after which the balances are small is recorded in full. -/
theorem allocate_becomes {payable : Payable} (exact : payable.Exact) {amounts : Amounts}
    (amounts_exact : amounts.Exact payable.currency)
    (small : (payable.debt.charge amounts.parts).Small) :
    Becomes (payable.debt.charge amounts.parts) (payable.allocate amounts) :=
  allocate_recorded exact amounts_exact
    (Nat.lt_of_le_of_lt (Nat.le_add_left _ _) small.allocated)
    (Nat.lt_of_le_of_lt (Nat.le_add_left _ _) small.remaining)

/-- What would stay open is exact while the balances before and after and the amounts are
small. -/
theorem projected_gives {payable : Payable} (exact : payable.Exact) {amounts : Amounts}
    (amounts_exact : amounts.Exact payable.currency) (before : payable.debt.Small)
    (after : (payable.debt.charge amounts.parts).Small)
    (small : amounts.parts.magnitude < coefficientLimit) :
    Money.Gives payable.currency (payable.debt.projected amounts.parts)
      (payable.projected amounts) := by
  have before_small : payable.openAmount.ticks.natAbs + payable.allocated.parts.magnitude <
    coefficientLimit := before.allocated
  have after_small : payable.openAmount.ticks.natAbs +
    (payable.allocated.parts + amounts.parts).magnitude < coefficientLimit := after.allocated
  have before_le := payable.allocated.parts.natAbs_total_le
  have after_le := (payable.allocated.parts + amounts.parts).natAbs_total_le
  rw [Parts.total_add] at after_le
  obtain ⟨total, total_eq, total_exact, total_ticks⟩ :=
    Amounts.total_gives exact.allocated (Nat.lt_of_le_of_lt (Nat.le_add_left _ _) before_small)
  obtain ⟨open', open_eq, open_exact, open_ticks⟩ :=
    Money.sub_gives exact.openAmount total_exact (by omega)
  obtain ⟨given, given_eq, given_exact, given_ticks⟩ := Amounts.total_gives amounts_exact small
  obtain ⟨left, left_eq, left_exact, left_ticks⟩ :=
    Money.sub_gives open_exact given_exact (by omega)
  refine ⟨left, ?_, left_exact, ?_⟩
  · simp only [projected, total_eq, open_eq, given_eq, left_eq, ok_bind]
  · rw [left_ticks, open_ticks, given_ticks, total_ticks]
    rfl

/-- What is left to pay goes where the policy says. -/
theorem moved_becomes {payable : Payable} (exact : payable.Exact) (small : payable.debt.Small)
    {policy : LeftoverPolicy} (moves : policy ≠ .leaveOpen) :
    ∃ move, Progress.moved policy payable = some move ∧
      Becomes (payable.debt.move policy) move := by
  have remaining_small : payable.remaining.parts.magnitude < coefficientLimit :=
    Nat.lt_of_le_of_lt (Nat.le_add_left _ _) small.remaining
  unfold Parts.magnitude at remaining_small
  cases policy with
  | leaveOpen => exact absurd rfl moves
  | discount =>
      obtain ⟨remaining, remaining_eq, remaining_exact, remaining_parts⟩ :=
        Amounts.payToDiscount_gives exact.remaining (by omega)
      refine ⟨_, rfl, { payable with remaining }, ?_,
        ⟨exact.openAmount, exact.initial, remaining_exact, exact.allocated⟩, ?_⟩
      · rw [remainderToDiscount, remaining_eq, Attempt.assign_ok]
      · simp only [debt, Debt.move, remaining_parts]
        rfl
  | writeOff =>
      obtain ⟨remaining, remaining_eq, remaining_exact, remaining_parts⟩ :=
        Amounts.payToWriteOff_gives exact.remaining (by omega)
      refine ⟨_, rfl, { payable with remaining }, ?_,
        ⟨exact.openAmount, exact.initial, remaining_exact, exact.allocated⟩, ?_⟩
      · rw [remainderToWriteOff, remaining_eq, Attempt.assign_ok]
      · simp only [debt, Debt.move, remaining_parts]
        rfl

end Payable

/-! ## Payments -/

namespace Payment

/-- All amounts of the payment are exact in its currency. -/
structure Exact (payment : Payment) : Prop where
  openAmount : payment.openAmount.Exact payment.currency
  initial : payment.initial.Exact payment.currency
  remaining : payment.remaining.Exact payment.currency
  allocated : payment.allocated.Exact payment.currency

/-- The payment in ticks. -/
def fund (payment : Payment) : Fund where
  organization := payment.organization
  partner := payment.partner
  direction := payment.direction
  reference := payment.reference
  currency := payment.currency
  openAmount := payment.openAmount.ticks
  initial := payment.initial.ticks
  remaining := payment.remaining.ticks
  allocated := payment.allocated.ticks

/-- A change of a payment comes to its end and leaves an exact payment that is read as a fund. -/
def Becomes (fund : Fund) (attempt : Attempt Payment) : Prop :=
  ∃ changed, attempt = .complete changed ∧ changed.Exact ∧ changed.fund = fund

theorem isFullyAllocated_iff (payment : Payment) :
    payment.isFullyAllocated = true ↔ ¬payment.fund.IsOpen := by
  rw [isFullyAllocated, Money.isZero_iff, not_not]
  rfl

/-- An allocation after which what is left and what has been allocated are small is recorded in
full, whatever the open amount is. -/
theorem allocate_recorded {payment : Payment} (exact : payment.Exact) {amount : Money}
    (amount_exact : amount.Exact payment.currency)
    (allocated_small : (payment.allocated.ticks + amount.ticks).natAbs < coefficientLimit)
    (remaining_small : (payment.remaining.ticks - amount.ticks).natAbs < coefficientLimit) :
    Becomes (payment.fund.draw amount.ticks) (payment.allocate amount) := by
  obtain ⟨allocated, allocated_eq, allocated_exact, allocated_ticks⟩ :=
    Money.add_gives exact.allocated amount_exact allocated_small
  obtain ⟨remaining, remaining_eq, remaining_exact, remaining_ticks⟩ :=
    Money.sub_gives exact.remaining amount_exact remaining_small
  refine ⟨{ payment with allocated, remaining }, ?_,
    ⟨exact.openAmount, exact.initial, remaining_exact, allocated_exact⟩, ?_⟩
  · rw [allocate, allocated_eq, Attempt.assign_ok, Attempt.andThen_complete]
    simp only [remaining_eq, Attempt.assign_ok]
  · simp only [fund, Fund.draw, allocated_ticks, remaining_ticks]
    rfl

/-- An allocation after which the balances are small is recorded in full. -/
theorem allocate_becomes {payment : Payment} (exact : payment.Exact) {amount : Money}
    (amount_exact : amount.Exact payment.currency)
    (small : (payment.fund.draw amount.ticks).Small) :
    Becomes (payment.fund.draw amount.ticks) (payment.allocate amount) :=
  allocate_recorded exact amount_exact
    (Nat.lt_of_le_of_lt (Nat.le_add_left _ _) small.allocated)
    (Nat.lt_of_le_of_lt (Nat.le_add_left _ _) small.remaining)

/-- What would stay open is exact while allocated amounts are small. -/
theorem projected_gives {payment : Payment} (exact : payment.Exact) {amount : Money}
    (amount_exact : amount.Exact payment.currency) (before : payment.fund.Small)
    (after : (payment.fund.draw amount.ticks).Small) :
    Money.Gives payment.currency (payment.fund.projected amount.ticks)
      (payment.projected amount) := by
  have before_small : payment.openAmount.ticks.natAbs + payment.allocated.ticks.natAbs <
    coefficientLimit := before.allocated
  have after_small : payment.openAmount.ticks.natAbs +
    (payment.allocated.ticks + amount.ticks).natAbs < coefficientLimit := after.allocated
  obtain ⟨open', open_eq, open_exact, open_ticks⟩ :=
    Money.sub_gives exact.openAmount exact.allocated (by omega)
  obtain ⟨left, left_eq, left_exact, left_ticks⟩ :=
    Money.sub_gives open_exact amount_exact (by omega)
  refine ⟨left, ?_, left_exact, ?_⟩
  · simp only [projected, open_eq, left_eq, ok_bind]
  · rw [left_ticks, open_ticks]
    rfl

end Payment

/-! ## Documents that act as payments -/

namespace PaymentView

/-- All amounts of the document are exact in its currency. -/
def Exact : PaymentView → Prop
  | payment document => document.Exact
  | creditMemo document | purchaseInvoice document => document.Exact

/-- The document in ticks. -/
def source : PaymentView → Source
  | payment document => .fund document.fund
  | creditMemo document => .creditMemo document.debt
  | purchaseInvoice document => .purchaseInvoice document.debt

variable {view : PaymentView} {payable : Payable}

theorem reference_source (view : PaymentView) : view.source.reference = view.reference := by
  cases view <;> rfl

theorem remaining_exact (exact : view.Exact) : view.remaining.Exact view.currency := by
  cases view with
  | payment document => exact Payment.Exact.remaining exact
  | creditMemo document => exact (Payable.Exact.remaining exact).pay.neg
  | purchaseInvoice document => exact (Payable.Exact.remaining exact).pay.neg

theorem remaining_source (exact : view.Exact) :
    view.source.remaining = view.remaining.ticks := by
  cases view with
  | payment document => rfl
  | creditMemo document => exact (Money.ticks_neg (Payable.Exact.remaining exact).pay).symm
  | purchaseInvoice document => exact (Money.ticks_neg (Payable.Exact.remaining exact).pay).symm

theorem initial_source (exact : view.Exact) : view.source.initial = view.initial.ticks := by
  cases view with
  | payment document => rfl
  | creditMemo document => exact (Money.ticks_neg (Payable.Exact.initial exact).pay).symm
  | purchaseInvoice document => exact (Money.ticks_neg (Payable.Exact.initial exact).pay).symm

theorem currency_source (view : PaymentView) : view.source.currency = view.currency := by
  cases view <;> rfl

theorem isFullyAllocated_iff (view : PaymentView) :
    view.isFullyAllocated = true ↔ ¬view.source.IsOpen := by
  cases view with
  | payment document => exact document.isFullyAllocated_iff
  | creditMemo document =>
      rw [Source.IsOpen, source, Source.remaining, ne_eq, Int.neg_eq_zero]
      exact document.isFullyAllocated_iff
  | purchaseInvoice document =>
      rw [Source.IsOpen, source, Source.remaining, ne_eq, Int.neg_eq_zero]
      exact document.isFullyAllocated_iff

theorem canPay_iff (view : PaymentView) (payable : Payable) :
    view.canPay payable = true ↔ view.source.CanPay payable.debt := by
  cases view with
  | payment document => exact beq_iff_eq
  | creditMemo memo =>
      simp only [canPay, Bool.and_eq_true, beq_iff_eq, and_assoc]
      exact Iff.rfl
  | purchaseInvoice invoice =>
      have sales_iff : payable.side.isSales = true ↔ payable.side = .sales := by
        cases payable.side <;> simp [TradeSide.isSales]
      simp only [canPay, Bool.and_eq_true, beq_iff_eq, and_assoc, sales_iff]
      exact Iff.rfl

theorem currency_of_canPay (can : view.source.CanPay payable.debt) :
    view.currency = payable.currency := by
  cases view with
  | payment document => exact Eq.symm can
  | creditMemo memo => exact can.2.2.symm
  | purchaseInvoice invoice => exact can.2.2.symm

theorem fits_iff (view_exact : view.Exact) :
    view.fits payable = true ↔ view.source.Fits payable.debt := by
  rw [fits, Bool.and_eq_true, canPay_iff, beq_iff_eq, Bool.eq_iff_iff, Money.isNegative_iff,
    Money.isNegative_iff, ← initial_source view_exact]
  rfl

/-- What a document that may pay takes of a payable. -/
theorem share_gives (view_exact : view.Exact) (exact : payable.Exact)
    (can : view.source.CanPay payable.debt) :
    Amounts.Gives payable.currency (Book.offer payable.debt view.source) (view.share payable) := by
  have left_exact : view.remaining.Exact payable.currency :=
    currency_of_canPay can ▸ remaining_exact view_exact
  have left_ticks := remaining_source view_exact
  have payable_ticks : payable.debt.remaining.pay = payable.remaining.pay.ticks := rfl
  have payable_sign := payable.remaining.pay.isNegative_iff
  have view_sign := view.remaining.isNegative_iff
  have taken : ∀ pay : Money, pay.Exact payable.currency →
      pay.ticks = view.source.share payable.debt →
      Amounts.Gives payable.currency (Book.offer payable.debt view.source)
        (payable.remaining.withPay pay) := by
    intro pay pay_exact pay_ticks
    rw [Book.offer, ← pay_ticks]
    exact Amounts.withPay_gives exact.remaining pay_exact
  rw [share]
  cases payable_flag : payable.remaining.pay.isNegative <;>
    cases view_flag : view.remaining.isNegative <;>
    simp only [payable_flag, view_flag, true_iff, false_iff, Bool.false_eq_true]
      at payable_sign view_sign
  · obtain ⟨least, least_eq, least_exact, least_ticks⟩ :=
      Money.min_gives exact.remaining.pay left_exact
    simp only [least_eq, ok_bind]
    apply taken least least_exact
    rw [Source.share, left_ticks, payable_ticks, least_ticks, if_pos (by omega)]
  · refine ⟨payable.remaining.withZeroPay, rfl, exact.remaining.withZeroPay, ?_⟩
    rw [Amounts.parts_withZeroPay, Book.offer, Source.share, left_ticks, payable_ticks,
      if_neg (by omega), if_neg (by omega)]
    rfl
  · refine ⟨payable.remaining.withZeroPay, rfl, exact.remaining.withZeroPay, ?_⟩
    rw [Amounts.parts_withZeroPay, Book.offer, Source.share, left_ticks, payable_ticks,
      if_neg (by omega), if_neg (by omega)]
    rfl
  · obtain ⟨greatest, greatest_eq, greatest_exact, greatest_ticks⟩ :=
      Money.max_gives exact.remaining.pay left_exact
    simp only [greatest_eq, ok_bind]
    apply taken greatest greatest_exact
    rw [Source.share, left_ticks, payable_ticks, greatest_ticks, if_neg (by omega),
      if_pos (by omega)]

/-- What would stay open of a document that acts as a payment is exact. -/
theorem projected_gives (view_exact : view.Exact) {amount : Money}
    (amount_exact : amount.Exact view.currency) (before : view.source.Small)
    (after : (view.source.draw amount.ticks).Small)
    (small : amount.ticks.natAbs < coefficientLimit) :
    Money.Gives view.currency (view.source.projected amount.ticks) (view.projected amount) := by
  have memo_gives : ∀ document : Payable, document.Exact → amount.Exact document.currency →
      document.debt.Small → (document.debt.charge (Parts.ofPay (-amount.ticks))).Small →
      Money.Gives document.currency (document.debt.projected (Parts.ofPay (-amount.ticks)))
        (document.projected (Amounts.ofPay amount.neg)) := by
    intro document exact amount_exact before after
    have parts_eq : (Amounts.ofPay amount.neg).parts = Parts.ofPay (-amount.ticks) := by
      rw [Amounts.parts_ofPay, Money.ticks_neg amount_exact]
    rw [← parts_eq] at after ⊢
    apply Payable.projected_gives exact (Amounts.exact_ofPay amount_exact.neg) before after
    rwa [parts_eq, Parts.magnitude_ofPay, Int.natAbs_neg]
  cases view with
  | payment document => exact Payment.projected_gives view_exact amount_exact before after
  | creditMemo document => exact memo_gives document view_exact amount_exact before after
  | purchaseInvoice document => exact memo_gives document view_exact amount_exact before after

end PaymentView

/-! ## All documents -/

namespace Documents

/-- All amounts of all documents are exact. -/
structure Exact (documents : Documents) : Prop where
  payables : ∀ payable ∈ documents.payables, payable.Exact
  payments : ∀ payment ∈ documents.payments, payment.Exact

/-- The documents in ticks. -/
def book (documents : Documents) : Book where
  debts := documents.payables.map Payable.debt
  funds := documents.payments.map Payment.fund

/-- A change of documents comes to its end and leaves exact ones that are read as a book. -/
def Becomes (book : Book) (attempt : Attempt Documents) : Prop :=
  ∃ changed, attempt = .complete changed ∧ changed.Exact ∧ changed.book = book

variable {documents : Documents} {index : Nat} {payable : Payable} {payment : Payment}

theorem debt_eq_some_iff {debt : Debt} :
    documents.book.debts[index]? = some debt ↔
      ∃ payable, documents.payables[index]? = some payable ∧ payable.debt = debt := by
  rw [book, List.getElem?_map, Option.map_eq_some_iff]

theorem fund_eq_some_iff {fund : Fund} :
    documents.book.funds[index]? = some fund ↔
      ∃ payment, documents.payments[index]? = some payment ∧ payment.fund = fund := by
  rw [book, List.getElem?_map, Option.map_eq_some_iff]

theorem debt_of_payable (payable_eq : documents.payables[index]? = some payable) :
    documents.book.debts[index]? = some payable.debt :=
  debt_eq_some_iff.mpr ⟨payable, payable_eq, rfl⟩

theorem fund_of_payment (payment_eq : documents.payments[index]? = some payment) :
    documents.book.funds[index]? = some payment.fund :=
  fund_eq_some_iff.mpr ⟨payment, payment_eq, rfl⟩

theorem place_of_mem_payables (mem : payable ∈ documents.payables) :
    ∃ place : Nat, documents.payables[place]? = some payable ∧
      documents.book.debts[place]? = some payable.debt := by
  obtain ⟨place, payable_eq⟩ := List.mem_iff_getElem?.mp mem
  exact ⟨place, payable_eq, debt_of_payable payable_eq⟩

theorem place_of_mem_payments (mem : payment ∈ documents.payments) :
    ∃ place : Nat, documents.payments[place]? = some payment ∧
      documents.book.funds[place]? = some payment.fund := by
  obtain ⟨place, payment_eq⟩ := List.mem_iff_getElem?.mp mem
  exact ⟨place, payment_eq, fund_of_payment payment_eq⟩

theorem payable_of_lt (bound : index < documents.book.debts.length) :
    ∃ payable, documents.payables[index]? = some payable ∧
      documents.book.debts[index]? = some payable.debt := by
  obtain ⟨payable, payable_eq, -⟩ := debt_eq_some_iff.mp (List.getElem?_eq_getElem bound)
  exact ⟨payable, payable_eq, debt_of_payable payable_eq⟩

theorem Exact.payable_exact (exact : documents.Exact)
    (payable_eq : documents.payables[index]? = some payable) : payable.Exact :=
  exact.payables payable (List.mem_of_getElem? payable_eq)

theorem Exact.payment_exact (exact : documents.Exact)
    (payment_eq : documents.payments[index]? = some payment) : payment.Exact :=
  exact.payments payment (List.mem_of_getElem? payment_eq)

theorem entry_eq_ok {α : Type} {entries : List α} {value : α} :
    entry entries index = .ok value ↔ entries[index]? = some value := by
  unfold entry
  split
  · rename_i found found_eq
    rw [found_eq, Except.ok.injEq, Option.some.injEq]
  · rename_i missing
    rw [missing]
    exact ⟨nofun, nofun⟩

theorem payable_eq_ok (payable_eq : documents.payables[index]? = some payable) :
    documents.payable index = .ok payable :=
  entry_eq_ok.mpr payable_eq

theorem payment_eq_ok (payment_eq : documents.payments[index]? = some payment) :
    documents.payment index = .ok payment :=
  entry_eq_ok.mpr payment_eq

/-- A change of a payable that comes to its end changes its debt. -/
theorem changePayable_becomes (exact : documents.Exact)
    (payable_eq : documents.payables[index]? = some payable) {step : Payable → Attempt Payable}
    {change : Debt → Debt} (becomes : Payable.Becomes (change payable.debt) (step payable)) :
    Becomes (documents.book.changeDebt index change) (documents.changePayable index step) := by
  obtain ⟨changed, changed_eq, changed_exact, changed_debt⟩ := becomes
  refine ⟨{ documents with payables := documents.payables.set index changed }, ?_,
    ⟨?_, exact.payments⟩, ?_⟩
  · simp only [changePayable, changeEntry, payable_eq, changed_eq, Attempt.map_complete]
  · intro other other_mem
    rcases List.mem_or_eq_of_mem_set other_mem with kept | rfl
    · exact exact.payables other kept
    · exact changed_exact
  · simp only [book, Book.changeDebt]
    rw [map_set_eq_modify Payable.debt payable_eq changed_debt]

/-- A change of a payment that comes to its end changes its fund. -/
theorem changePayment_becomes (exact : documents.Exact)
    (payment_eq : documents.payments[index]? = some payment) {step : Payment → Attempt Payment}
    {change : Fund → Fund} (becomes : Payment.Becomes (change payment.fund) (step payment)) :
    Becomes (documents.book.changeFund index change) (documents.changePayment index step) := by
  obtain ⟨changed, changed_eq, changed_exact, changed_fund⟩ := becomes
  refine ⟨{ documents with payments := documents.payments.set index changed }, ?_,
    ⟨exact.payables, ?_⟩, ?_⟩
  · simp only [changePayment, changeEntry, payment_eq, changed_eq, Attempt.map_complete]
  · intro other other_mem
    rcases List.mem_or_eq_of_mem_set other_mem with kept | rfl
    · exact exact.payments other kept
    · exact changed_exact
  · simp only [book, Book.changeFund]
    rw [map_set_eq_modify Payment.fund payment_eq changed_fund]

/-- An allocation to a payable is recorded on its debt. -/
theorem allocate_becomes (exact : documents.Exact)
    (payable_eq : documents.payables[index]? = some payable) {amounts : Amounts}
    (amounts_exact : amounts.Exact payable.currency)
    (small : (payable.debt.charge amounts.parts).Small) :
    Becomes (documents.book.charge index amounts.parts) (documents.allocate index amounts) :=
  changePayable_becomes exact payable_eq
    (Payable.allocate_becomes (exact.payable_exact payable_eq) amounts_exact small)

/-- A document seen as a payment is read as its source. -/
theorem view_eq_ok (exact : documents.Exact) {means : Means} {source : Source}
    (source_eq : documents.book.source? means = some source) :
    ∃ view, documents.view means = .ok view ∧ view.Exact ∧ view.source = source := by
  cases means with
  | payment other =>
      obtain ⟨fund, fund_eq, rfl⟩ := Option.map_eq_some_iff.mp source_eq
      obtain ⟨payment, payment_eq, rfl⟩ := fund_eq_some_iff.mp fund_eq
      refine ⟨.payment payment, ?_, exact.payment_exact payment_eq, rfl⟩
      rw [view, payment_eq_ok payment_eq]
      rfl
  | creditMemo other =>
      obtain ⟨debt, debt_eq, rfl⟩ := Option.map_eq_some_iff.mp source_eq
      obtain ⟨payable, payable_eq, rfl⟩ := debt_eq_some_iff.mp debt_eq
      refine ⟨.creditMemo payable, ?_, exact.payable_exact payable_eq, rfl⟩
      rw [view, payable_eq_ok payable_eq]
      rfl
  | purchaseInvoice other =>
      obtain ⟨debt, debt_eq, rfl⟩ := Option.map_eq_some_iff.mp source_eq
      obtain ⟨payable, payable_eq, rfl⟩ := debt_eq_some_iff.mp debt_eq
      refine ⟨.purchaseInvoice payable, ?_, exact.payable_exact payable_eq, rfl⟩
      rw [view, payable_eq_ok payable_eq]
      rfl

/-- An amount taken off a payable is recorded on its debt with the opposite sign. -/
theorem allocate_neg_becomes (exact : documents.Exact)
    (payable_eq : documents.payables[index]? = some payable) {amount : Money}
    (amount_exact : amount.Exact payable.currency)
    (small : (payable.debt.charge (Parts.ofPay (-amount.ticks))).Small) :
    Becomes (documents.book.charge index (Parts.ofPay (-amount.ticks)))
      (documents.allocate index (Amounts.ofPay amount.neg)) := by
  have parts_eq : (Amounts.ofPay amount.neg).parts = Parts.ofPay (-amount.ticks) := by
    rw [Amounts.parts_ofPay, Money.ticks_neg amount_exact]
  rw [← parts_eq] at small ⊢
  exact allocate_becomes exact payable_eq (Amounts.exact_ofPay amount_exact.neg) small

/-- An amount paid with a document is drawn from its source. -/
theorem pay_becomes (exact : documents.Exact) {means : Means} {source : Source}
    (source_eq : documents.book.source? means = some source) {amount : Money}
    (amount_exact : amount.Exact source.currency) {policy : LeftoverPolicy}
    (sound : (documents.book.draw means amount.ticks).Sound policy) :
    Becomes (documents.book.draw means amount.ticks) (documents.pay means amount) := by
  cases means with
  | payment other =>
      obtain ⟨fund, fund_eq, rfl⟩ := Option.map_eq_some_iff.mp source_eq
      obtain ⟨payment, payment_eq, rfl⟩ := fund_eq_some_iff.mp fund_eq
      have drawn := sound.fund (Book.getElem?_changeFund_self (·.draw amount.ticks) fund_eq)
      exact changePayment_becomes exact payment_eq
        (Payment.allocate_becomes (exact.payment_exact payment_eq) amount_exact
          drawn.balances_small)
  | creditMemo other =>
      obtain ⟨debt, debt_eq, rfl⟩ := Option.map_eq_some_iff.mp source_eq
      obtain ⟨payable, payable_eq, rfl⟩ := debt_eq_some_iff.mp debt_eq
      have charged := sound.debt
        (Book.getElem?_changeDebt_self (·.charge (Parts.ofPay (-amount.ticks))) debt_eq)
      exact allocate_neg_becomes exact payable_eq amount_exact charged.balances_small
  | purchaseInvoice other =>
      obtain ⟨debt, debt_eq, rfl⟩ := Option.map_eq_some_iff.mp source_eq
      obtain ⟨payable, payable_eq, rfl⟩ := debt_eq_some_iff.mp debt_eq
      have charged := sound.debt
        (Book.getElem?_changeDebt_self (·.charge (Parts.ofPay (-amount.ticks))) debt_eq)
      exact allocate_neg_becomes exact payable_eq amount_exact charged.balances_small

end Documents
end Settlement
