import Settlement.Proofs.Exact.Documents
import Settlement.Proofs.Exact.Trail

/-!
# Proposals for exact documents

What exact documents propose in a step is what the book that they are read as deals: the same
entry, refused for the same reason, and recorded with the same outcome.  No fault ever cuts a
proposal short while the book is sound.
-/

namespace Settlement

/-! ## Candidates -/

namespace Candidate

/-- All amounts of the candidate are exact in its currency. -/
structure Exact (candidate : Candidate) : Prop where
  amounts : candidate.amounts.Exact candidate.currency
  payableOverUnder : candidate.payableOverUnder.Exact candidate.currency
  paymentOverUnder : candidate.paymentOverUnder.Exact candidate.currency

/-- The candidate in ticks. -/
def entry (candidate : Candidate) : Entry where
  kind := candidate.kind
  organization := candidate.organization
  partner := candidate.partner
  payable := candidate.payable
  payment := candidate.payment
  currency := candidate.currency
  parts := candidate.amounts.parts
  payableOverUnder := candidate.payableOverUnder.ticks
  paymentOverUnder := candidate.paymentOverUnder.ticks

/-- A draft comes out as an exact candidate that is read as an entry, or is refused for the
entry's reason. -/
def Completes (entry : Entry) (completed : Except AllocationError Candidate) : Prop :=
  match entry.refusal? with
  | none => ∃ candidate, completed = .ok candidate ∧ candidate.Exact ∧ candidate.entry = entry
  | some error => completed = .error error

namespace Draft

theorem checkOverUnder_ok {currency : Currency} {money : Money} (exact : money.Exact currency) :
    checkOverUnder currency (some money) = .ok money :=
  if_pos exact.currency_eq

theorem checkOverUnder_none (currency : Currency) :
    checkOverUnder currency none = .ok (Money.zero currency) :=
  if_pos rfl

/-- A draft that pays with a payment is only refused for one document on both sides. -/
theorem complete_paid {currency : Currency} {kind : CandidateKind}
    {organization : OrganizationId} {partner : Option PartyId} {payable payment : Reference}
    {amounts : Amounts} {payableOverUnder paymentOverUnder : Money}
    {payableTicks paymentTicks : Int} (amounts_exact : amounts.Exact currency)
    (payable_exact : payableOverUnder.Exact currency)
    (payable_ticks : payableOverUnder.ticks = payableTicks)
    (payment_exact : paymentOverUnder.Exact currency)
    (payment_ticks : paymentOverUnder.ticks = paymentTicks) :
    Completes
      { kind, organization, partner, payable, payment := some payment, currency
        parts := amounts.parts
        payableOverUnder := payableTicks
        paymentOverUnder := paymentTicks }
      (complete
        { kind
          organization := some organization
          partner
          payable := some payable
          payment := some payment
          amounts := some amounts
          payableOverUnder := some payableOverUnder
          paymentOverUnder := some paymentOverUnder }) := by
  obtain rfl := amounts_exact.currency_eq
  subst payable_ticks payment_ticks
  unfold Completes Entry.refusal?
  by_cases same : payment = payable
  · subst same
    simp [complete, required, checkSides, bind, Except.bind]
  · simp only [Option.some.injEq, same, if_false]
    refine
      ⟨{ kind, organization, partner, payable, payment := some payment, amounts
         payableOverUnder, paymentOverUnder }, ?_,
        ⟨amounts_exact, payable_exact, payment_exact⟩, rfl⟩
    simp only [complete, required, checkSides, same, if_false, bind, Except.bind,
      checkOverUnder_ok payable_exact, checkOverUnder_ok payment_exact]
    rfl

/-- A draft that pays nothing needs no payment. -/
theorem complete_unpaid {currency : Currency} {kind : CandidateKind}
    {organization : OrganizationId} {partner : Option PartyId} {payable : Reference}
    {amounts : Amounts} {payableOverUnder : Money} {payableTicks : Int}
    (amounts_exact : amounts.Exact currency) (nothing : amounts.parts.pay = 0)
    (payable_exact : payableOverUnder.Exact currency)
    (payable_ticks : payableOverUnder.ticks = payableTicks) :
    Completes
      { kind, organization, partner, payable, payment := none, currency
        parts := amounts.parts
        payableOverUnder := payableTicks
        paymentOverUnder := 0 }
      (complete
        { kind
          organization := some organization
          partner
          payable := some payable
          amounts := some amounts
          payableOverUnder := some payableOverUnder }) := by
  obtain rfl := amounts_exact.currency_eq
  subst payable_ticks
  have unpaid : amounts.pay.isZero = true := amounts.pay.isZero_iff.mpr nothing
  unfold Completes Entry.refusal?
  simp only [reduceCtorEq, if_false]
  refine
    ⟨{ kind, organization, partner, payable, payment := none, amounts, payableOverUnder
       paymentOverUnder := Money.zero amounts.currency }, ?_,
      ⟨amounts_exact, payable_exact, Money.exact_zero _⟩, ?_⟩
  · simp only [complete, required, checkSides, unpaid, if_true, bind, Except.bind,
      checkOverUnder_ok payable_exact, checkOverUnder_none]
    rfl
  · simp only [entry, Money.ticks_zero]
    rfl

end Draft
end Candidate

/-! ## Proposals -/

/-- What documents propose is what their book deals. -/
inductive Proposes (documents : Documents) :
    Option Deal → Except Failure (Option Proposal) → Prop where
  /-- There is nothing to settle. -/
  | nothing : Proposes documents none (.ok none)
  /-- The entry is refused. -/
  | refused {deal : Deal} {error : AllocationError} (refusal : deal.entry.refusal? = some error) :
      Proposes documents (some deal) (.error (.refused error))
  /-- The entry is proposed, and recording it leaves the book after it. -/
  | made {deal : Deal} {proposal : Proposal} (accepted : deal.entry.refusal? = none)
      (exact : proposal.candidate.Exact) (entry_eq : proposal.candidate.entry = deal.entry)
      (becomes : Documents.Becomes deal.after (proposal.record documents)) :
      Proposes documents (some deal) (.ok (some proposal))

/-- A proposal is made from a candidate that is completed for the entry of a deal. -/
theorem Proposes.of_completes {documents : Documents} {deal : Deal}
    {completed : Except AllocationError Candidate} {propose : Candidate → Proposal}
    (completes : Candidate.Completes deal.entry completed)
    (candidate_eq : ∀ candidate, (propose candidate).candidate = candidate)
    (becomes : ∀ candidate, Documents.Becomes deal.after ((propose candidate).record documents)) :
    Proposes documents (some deal)
      (orRefused completed >>= fun candidate => .ok (some (propose candidate))) := by
  unfold Candidate.Completes at completes
  split at completes
  · rename_i accepted
    obtain ⟨candidate, rfl, exact, entry_eq⟩ := completes
    exact .made accepted (by rwa [candidate_eq]) (by rwa [candidate_eq]) (becomes candidate)
  · rename_i error refusal
    subst completes
    exact .refused refusal

namespace Documents

variable {documents : Documents} {policy : LeftoverPolicy}

/-- An open payable and an open document that fits it are proposed for each other. -/
theorem pairing_proposes_deal (exact : documents.Exact) (sound : documents.book.Sound policy)
    {kind : CandidateKind} {index : Nat} {means : Means}
    (serves : documents.book.Serves kind index means) {payable : Payable} {view : PaymentView}
    (payable_eq : documents.payables[index]? = some payable)
    (view_eq : documents.view means = .ok view) (view_exact : view.Exact)
    (source_eq : documents.book.source? means = some view.source)
    (payable_open : payable.isFullyAllocated = false)
    (view_open : view.isFullyAllocated = false) (fits : view.fits payable = true) :
    Proposes documents
      (some
        { entry := Book.pairEntry kind payable.debt view.source
            (Book.offer payable.debt view.source)
          after := (documents.book.charge index (Book.offer payable.debt view.source)).draw means
            (view.source.share payable.debt) })
      (documents.pairing kind index means) := by
  have payable_exact := exact.payable_exact payable_eq
  have debt_eq := debt_of_payable payable_eq
  have can := ((PaymentView.fits_iff view_exact).mp fits).1
  have charged := Book.later_offer sound view.source debt_eq
  have later := Book.later_pair sound serves debt_eq source_eq
  have charged_source := (serves.source?_charge (Book.offer payable.debt view.source)).trans
    source_eq
  have debt_small := (sound.debt debt_eq).balances_small
  have charged_small := (charged.sound.debt
    (Book.getElem?_changeDebt_self (·.charge (Book.offer payable.debt view.source))
      debt_eq)).balances_small
  have offer_small := Book.offer_small view.source debt_small
  have share_small := view.source.share_small debt_small
  obtain ⟨amounts, amounts_eq, amounts_exact, amounts_parts⟩ :=
    PaymentView.share_gives view_exact payable_exact can
  have pay_ticks : amounts.pay.ticks = view.source.share payable.debt :=
    congrArg Parts.pay amounts_parts
  have pay_exact : amounts.pay.Exact view.currency :=
    PaymentView.currency_of_canPay can ▸ amounts_exact.pay
  rw [← amounts_parts] at charged_small offer_small charged_source ⊢
  rw [← pay_ticks] at share_small ⊢
  rw [← amounts_parts, ← pay_ticks] at later
  obtain ⟨payableOverUnder, payable_over_eq, payable_over_exact, payable_over_ticks⟩ :=
    Payable.projected_gives payable_exact amounts_exact debt_small charged_small offer_small
  obtain ⟨paymentOverUnder, payment_over_eq, payment_over_exact, payment_over_ticks⟩ :=
    PaymentView.projected_gives view_exact pay_exact (sound.source_small source_eq)
      (later.sound.source_small (Book.source?_draw amounts.pay.ticks charged_source)) share_small
  simp only [pairing, payable_eq_ok payable_eq, view_eq, payable_open, view_open, fits,
    amounts_eq, payable_over_eq, payment_over_eq, orBroken_ok, ok_bind, Bool.not_true,
    Bool.or_self, Bool.false_eq_true, if_false]
  refine Proposes.of_completes ?_ (fun candidate => rfl) fun candidate => ?_
  · have over_exact : paymentOverUnder.Exact payable.currency :=
      PaymentView.currency_of_canPay can ▸ payment_over_exact
    simp only [Book.pairEntry, view.reference_source]
    exact Candidate.Draft.complete_paid amounts_exact payable_over_exact payable_over_ticks
      over_exact payment_over_ticks
  · obtain ⟨booked, booked_eq, booked_exact, booked_book⟩ :=
      allocate_becomes exact payable_eq amounts_exact charged_small
    dsimp only
    rw [booked_eq, Attempt.andThen_complete, ← booked_book]
    refine pay_becomes booked_exact (booked_book ▸ charged_source) ?_ (booked_book ▸ later.sound)
    rwa [view.currency_source]

/-- A pairing proposes what the book deals. -/
theorem pairing_proposes (exact : documents.Exact) (sound : documents.book.Sound policy)
    {kind : CandidateKind} {index : Nat} {means : Means}
    (serves : documents.book.Serves kind index means) :
    Proposes documents (documents.book.pairing? kind index means)
      (documents.pairing kind index means) := by
  obtain ⟨debt, debt_eq⟩ := serves.debt
  obtain ⟨source, source_eq⟩ := serves.source
  obtain ⟨payable, payable_eq, rfl⟩ := debt_eq_some_iff.mp debt_eq
  obtain ⟨view, view_eq, view_exact, rfl⟩ := view_eq_ok exact source_eq
  have payable_iff := payable.isFullyAllocated_iff
  have view_iff := view.isFullyAllocated_iff
  have fits_iff : view.fits payable = true ↔ view.source.Fits payable.debt :=
    PaymentView.fits_iff view_exact
  by_cases conditions :
      payable.debt.IsOpen ∧ view.source.IsOpen ∧ view.source.Fits payable.debt
  · obtain ⟨payable_open, view_open, fits⟩ := conditions
    simp only [Book.pairing?, debt_eq, source_eq]
    rw [if_pos ⟨payable_open, view_open, fits⟩]
    refine pairing_proposes_deal exact sound serves payable_eq view_eq view_exact source_eq ?_ ?_
      (fits_iff.mpr fits)
    · rwa [← Bool.not_eq_true, payable_iff, not_not]
    · rwa [← Bool.not_eq_true, view_iff, not_not]
  · simp only [Book.pairing?, debt_eq, source_eq, pairing, payable_eq_ok payable_eq, view_eq]
    rw [if_neg conditions]
    by_cases payable_full : payable.isFullyAllocated = true
    · simp only [payable_full, orBroken_ok, ok_bind, if_true]
      exact .nothing
    · have passed : (view.isFullyAllocated || !view.fits payable) = true := by
        rw [payable_iff, not_not] at payable_full
        rw [Bool.or_eq_true, Bool.not_eq_true', ← Bool.not_eq_true, view_iff, fits_iff]
        by_contra neither
        rw [not_or, not_not, not_not] at neither
        exact conditions ⟨payable_full, neither⟩
      simp only [payable_full, passed, orBroken_ok, ok_bind, if_true, if_false,
        Bool.false_eq_true]
      exact .nothing

/-- Parts of a payable that are settled without a payment are proposed as they are. -/
theorem concession_proposes (exact : documents.Exact) {index : Nat} {payable : Payable}
    (payable_eq : documents.payables[index]? = some payable) {amounts : Amounts}
    (amounts_exact : amounts.Exact payable.currency) (nothing : amounts.parts.pay = 0)
    (before : payable.debt.Small) (after : (payable.debt.charge amounts.parts).Small)
    (small : amounts.parts.magnitude < coefficientLimit) :
    Proposes documents (documents.book.concession? index amounts.parts)
      (some <$> documents.concession index amounts) := by
  have debt_eq := debt_of_payable payable_eq
  obtain ⟨overUnder, over_eq, over_exact, over_ticks⟩ :=
    Payable.projected_gives (exact.payable_exact payable_eq) amounts_exact before after small
  have drafted : documents.concession index amounts =
      orRefused (Candidate.Draft.complete
        { kind := .invoiceDiscountOrWriteOff
          organization := some payable.organization
          partner := payable.partner
          payable := some payable.reference
          amounts := some amounts
          payableOverUnder := some overUnder }) >>= fun candidate =>
        .ok
          { candidate
            event := .proposed candidate
            record := fun documents => documents.allocate index amounts } := by
    simp only [concession, payable_eq_ok payable_eq, over_eq, orBroken_ok, ok_bind]
    rfl
  rw [Book.concession?_eq _ debt_eq, drafted, map_bind]
  exact Proposes.of_completes
    (Candidate.Draft.complete_unpaid amounts_exact nothing over_exact over_ticks)
    (fun candidate => rfl) fun candidate => allocate_becomes exact payable_eq amounts_exact after

/-- The discount and write-off that a payable still carries are proposed as they are. -/
theorem remainder_proposes (exact : documents.Exact) (sound : documents.book.Sound policy)
    {index : Nat} (bound : index < documents.book.debts.length) :
    Proposes documents (documents.book.remainder? index) (documents.remainder index) := by
  obtain ⟨payable, payable_eq, debt_eq⟩ := payable_of_lt bound
  have payable_exact := exact.payable_exact payable_eq
  have parts_eq := Amounts.parts_withZeroPay payable.remaining
  have remaining_eq : payable.remaining.parts = payable.debt.remaining := rfl
  rw [remaining_eq] at parts_eq
  have zero_iff := payable.remaining.withZeroPay.isZero_iff
  rw [parts_eq] at zero_iff
  simp only [Book.remainder?, debt_eq, remainder, payable_eq_ok payable_eq]
  by_cases carries : { payable.debt.remaining with pay := 0 } = (0 : Parts)
  · rw [if_pos carries]
    have empty := zero_iff.mpr carries
    simp only [empty, orBroken_ok, ok_bind, if_true]
    exact .nothing
  · have full : payable.remaining.withZeroPay.isZero = false := by
      rwa [← Bool.not_eq_true, zero_iff]
    have small := (sound.debt debt_eq).balances_small
    have later : Debt.Later policy payable.debt
        (payable.debt.charge payable.remaining.withZeroPay.parts) := by
      rw [parts_eq]
      exact Debt.later_charge (sound.debt debt_eq) (within_zero _) (.inl ⟨rfl, rfl⟩)
    have extras_le : payable.remaining.withZeroPay.parts.magnitude ≤
        payable.debt.remaining.magnitude := by
      rw [parts_eq]
      simp [Parts.magnitude]
    have proposed := concession_proposes exact payable_eq payable_exact.remaining.withZeroPay
      (by rw [parts_eq]) small later.sound.balances_small
      (Nat.lt_of_le_of_lt (extras_le.trans (Nat.le_add_left _ _)) small.remaining)
    rw [map_eq_pure_bind] at proposed
    rw [if_neg carries, ← parts_eq]
    simpa only [orBroken_ok, ok_bind, full, Bool.false_eq_true, if_false] using proposed

/-- What is left of an open payable is moved as the policy says, and proposed after that. -/
theorem leftover_proposes (exact : documents.Exact) (sound : documents.book.Sound policy)
    {index : Nat} {payable : Payable} (payable_eq : documents.payables[index]? = some payable)
    (debt_open : payable.debt.IsOpen) (moves : policy ≠ .leaveOpen) :
    ∃ move changed, Progress.moved policy payable = some move ∧
      (documents.changePayable index fun _ => move) = .complete changed ∧ changed.Exact ∧
      Proposes changed (documents.book.leftover? policy index)
        (some <$> changed.concession index move.after.remaining) := by
  have debt_eq := debt_of_payable payable_eq
  have debt_sound := sound.debt debt_eq
  have small := debt_sound.balances_small
  have moved_small := small.move policy
  have later := Debt.later_charge_move debt_sound debt_open moves
  obtain ⟨move, move_eq, becomes⟩ :=
    Payable.moved_becomes (exact.payable_exact payable_eq) small moves
  have changes : Becomes (documents.book.changeDebt index (·.move policy))
      (documents.changePayable index fun _ => move) :=
    changePayable_becomes exact payable_eq becomes
  obtain ⟨moved, rfl, moved_exact, moved_debt⟩ := becomes
  obtain ⟨changed, changed_eq, changed_exact, changed_book⟩ := changes
  have found_eq : changed.book.debts[index]? = some (payable.debt.move policy) :=
    changed_book ▸ Book.getElem?_changeDebt_self (·.move policy) debt_eq
  obtain ⟨found, found_at, found_debt⟩ := debt_eq_some_iff.mp found_eq
  have currency_eq : moved.currency = found.currency :=
    congrArg (fun debt : Debt => debt.currency) (moved_debt.trans found_debt.symm)
  have parts_eq : moved.remaining.parts = (payable.debt.move policy).remaining :=
    congrArg Debt.remaining moved_debt
  refine ⟨_, changed, move_eq, changed_eq, changed_exact, ?_⟩
  simp only [Book.leftover?, debt_eq, Attempt.after_complete]
  rw [if_pos ⟨debt_open, moves⟩, ← changed_book, ← parts_eq]
  rw [← parts_eq] at later
  refine concession_proposes changed_exact found_at (currency_eq ▸ moved_exact.remaining) ?_
    (found_debt ▸ moved_small) (found_debt ▸ later.sound.balances_small) ?_
  · rw [parts_eq]
    cases policy <;> first | rfl | exact absurd rfl moves
  · rw [parts_eq]
    exact Nat.lt_of_le_of_lt (Nat.le_add_left _ _) moved_small.remaining

/-- What two payments offset is recorded on both of them. -/
theorem changePayments_becomes (exact : documents.Exact) {inbound outbound : Nat}
    {received made : Payment} (distinct : inbound ≠ outbound)
    (received_eq : documents.payments[inbound]? = some received)
    (made_eq : documents.payments[outbound]? = some made) {amount : Money}
    (made_exact : amount.Exact made.currency) (received_exact : amount.Exact received.currency)
    (made_small : (made.fund.draw amount.ticks).Small)
    (received_small : (received.fund.draw (-amount.ticks)).Small) :
    Becomes
      ((documents.book.changeFund outbound (·.draw amount.ticks)).changeFund inbound
        (·.draw (-amount.ticks)))
      ((documents.changePayment outbound fun payment => payment.allocate amount).andThen
        fun documents =>
          documents.changePayment inbound fun payment => payment.allocate amount.neg) := by
  have made_becomes : Becomes (documents.book.changeFund outbound (·.draw amount.ticks))
      (documents.changePayment outbound fun payment => payment.allocate amount) :=
    changePayment_becomes exact made_eq
      (Payment.allocate_becomes (exact.payment_exact made_eq) made_exact made_small)
  obtain ⟨booked, booked_eq, booked_exact, booked_book⟩ := made_becomes
  have kept : booked.book.funds[inbound]? = some received.fund := by
    rw [booked_book, Book.getElem?_changeFund_ne distinct.symm]
    exact fund_of_payment received_eq
  obtain ⟨found, found_eq, fund_eq⟩ := fund_eq_some_iff.mp kept
  have currency_eq : found.currency = received.currency :=
    congrArg (fun fund : Fund => fund.currency) fund_eq
  rw [booked_eq, Attempt.andThen_complete, ← booked_book, ← Money.ticks_neg made_exact]
  rw [← Money.ticks_neg made_exact, ← fund_eq] at received_small
  exact changePayment_becomes booked_exact found_eq
    (Payment.allocate_becomes (booked_exact.payment_exact found_eq)
      (currency_eq ▸ received_exact.neg) received_small)

/-- What two payments offset is computed as in the book. -/
theorem offset_gives {received made : Payment} (received_exact : received.Exact)
    (made_exact : made.Exact) (currency_eq : made.currency = received.currency) :
    Money.Gives made.currency (Book.offset received.fund made.fund)
      (received.remaining.neg.max made.remaining) := by
  obtain ⟨amount, amount_eq, amount_exact, amount_ticks⟩ :=
    Money.max_gives (currency_eq ▸ received_exact.remaining.neg) made_exact.remaining
  refine ⟨amount, amount_eq, amount_exact, ?_⟩
  rw [amount_ticks, Money.ticks_neg received_exact.remaining]
  rfl

/-- The entry for two payments is completed from what they offset. -/
theorem reversal_completes {received made : Payment}
    (currency_eq : made.currency = received.currency) {amount : Money}
    (amount_exact : amount.Exact made.currency) {payableOverUnder paymentOverUnder : Money}
    (payable_exact : payableOverUnder.Exact made.currency)
    (payable_ticks : payableOverUnder.ticks = made.fund.projected amount.ticks)
    (payment_exact : paymentOverUnder.Exact received.currency)
    (payment_ticks : paymentOverUnder.ticks = received.fund.projected amount.neg.ticks) :
    Candidate.Completes (Book.reversalEntry received.fund made.fund amount.ticks)
      (Candidate.Draft.complete
        { kind := .inboundPaymentToOutboundPayment
          organization := some made.organization
          partner := made.partner
          payable := some made.reference
          payment := some received.reference
          amounts := some (Amounts.ofPay amount)
          payableOverUnder := some payableOverUnder
          paymentOverUnder := some paymentOverUnder.neg }) := by
  have over_exact : paymentOverUnder.neg.Exact made.currency :=
    currency_eq ▸ payment_exact.neg
  have over_ticks : paymentOverUnder.neg.ticks = -received.fund.projected (-amount.ticks) := by
    rw [Money.ticks_neg payment_exact, payment_ticks, Money.ticks_neg amount_exact]
  have parts_eq : (Amounts.ofPay amount).parts = Parts.ofPay amount.ticks :=
    Amounts.parts_ofPay amount
  rw [Book.reversalEntry, ← parts_eq]
  exact Candidate.Draft.complete_paid (Amounts.exact_ofPay amount_exact) payable_exact
    payable_ticks over_exact over_ticks

/-- Two open payments of opposite directions and one currency are proposed for each other. -/
theorem reversal_proposes_deal (exact : documents.Exact) (sound : documents.book.Sound policy)
    {inbound outbound : Nat} (placed : documents.book.Placed (.reverse inbound outbound))
    {received made : Payment} (received_eq : documents.payments[inbound]? = some received)
    (made_eq : documents.payments[outbound]? = some made)
    (received_open : received.isFullyAllocated = false)
    (made_open : made.isFullyAllocated = false) (currency_eq : made.currency = received.currency) :
    Proposes documents
      (some
        { entry := Book.reversalEntry received.fund made.fund
            (Book.offset received.fund made.fund)
          after :=
            (documents.book.changeFund outbound
              (·.draw (Book.offset received.fund made.fund))).changeFund inbound
                (·.draw (-Book.offset received.fund made.fund)) })
      (documents.reversal inbound outbound) := by
  have received_fund := fund_of_payment received_eq
  have made_fund := fund_of_payment made_eq
  have received_exact := exact.payment_exact received_eq
  have made_exact := exact.payment_exact made_eq
  have received_is_open : received.fund.IsOpen := by
    rwa [← not_not (a := received.fund.IsOpen), ← received.isFullyAllocated_iff,
      Bool.not_eq_true]
  have made_is_open : made.fund.IsOpen := by
    rwa [← not_not (a := made.fund.IsOpen), ← made.isFullyAllocated_iff, Bool.not_eq_true]
  obtain ⟨received_pos, made_neg⟩ :=
    placed.reverse_signs sound received_fund made_fund received_is_open made_is_open
  obtain ⟨made_within, received_within⟩ := Book.offset_within received_pos made_neg
  have made_sound := sound.fund made_fund
  have received_sound := sound.fund received_fund
  have made_small := (Fund.later_draw made_sound made_within).sound.balances_small
  have received_small := (Fund.later_draw received_sound received_within).sound.balances_small
  obtain ⟨amount, amount_eq, amount_exact, offset_eq⟩ :=
    offset_gives received_exact made_exact currency_eq
  have paid_exact : amount.Exact received.currency := currency_eq ▸ amount_exact
  rw [← offset_eq] at made_small received_small ⊢
  obtain ⟨payableOverUnder, payable_over_eq, payable_over_exact, payable_over_ticks⟩ :=
    Payment.projected_gives made_exact amount_exact made_sound.balances_small made_small
  obtain ⟨paymentOverUnder, payment_over_eq, payment_over_exact, payment_over_ticks⟩ :=
    Payment.projected_gives received_exact paid_exact.neg received_sound.balances_small
      (by rwa [Money.ticks_neg amount_exact])
  simp only [reversal, payment_eq_ok received_eq, payment_eq_ok made_eq, received_open, made_open,
    currency_eq, amount_eq, payable_over_eq, payment_over_eq, orBroken_ok, ok_bind,
    bne_self_eq_false, Bool.or_self, Bool.false_eq_true, if_false]
  exact Proposes.of_completes
    (reversal_completes currency_eq amount_exact payable_over_exact payable_over_ticks
      payment_over_exact payment_over_ticks)
    (fun candidate => rfl) fun candidate =>
      changePayments_becomes exact placed.reverse_ne received_eq made_eq amount_exact paid_exact
        made_small received_small

/-- A reversal proposes what the book deals. -/
theorem reversal_proposes (exact : documents.Exact) (sound : documents.book.Sound policy)
    {inbound outbound : Nat} (placed : documents.book.Placed (.reverse inbound outbound)) :
    Proposes documents (documents.book.reversal? inbound outbound)
      (documents.reversal inbound outbound) := by
  obtain ⟨⟨received_fund, received_fund_eq, -⟩, made_fund, made_fund_eq, -⟩ := id placed
  obtain ⟨received, received_eq, rfl⟩ := fund_eq_some_iff.mp received_fund_eq
  obtain ⟨made, made_eq, rfl⟩ := fund_eq_some_iff.mp made_fund_eq
  have received_iff := received.isFullyAllocated_iff
  have made_iff := made.isFullyAllocated_iff
  simp only [Book.reversal?, received_fund_eq, made_fund_eq]
  by_cases conditions :
      received.fund.IsOpen ∧ made.fund.IsOpen ∧ made.fund.currency = received.fund.currency
  · obtain ⟨received_open, made_open, currency_eq⟩ := conditions
    rw [if_pos ⟨received_open, made_open, currency_eq⟩]
    refine reversal_proposes_deal exact sound placed received_eq made_eq ?_ ?_ currency_eq
    · rwa [← Bool.not_eq_true, received_iff, not_not]
    · rwa [← Bool.not_eq_true, made_iff, not_not]
  · rw [if_neg conditions]
    simp only [reversal, payment_eq_ok received_eq, payment_eq_ok made_eq, orBroken_ok, ok_bind]
    by_cases received_full : received.isFullyAllocated = true
    · rw [if_pos received_full]
      exact .nothing
    · have passed : (made.isFullyAllocated || made.currency != received.currency) = true := by
        rw [received_iff, not_not] at received_full
        rw [Bool.or_eq_true, bne_iff_ne, made_iff]
        by_contra neither
        rw [not_or, not_not, not_not] at neither
        exact conditions ⟨received_full, neither⟩
      rw [if_neg received_full, if_pos passed]
      exact .nothing

end Documents
end Settlement
