import Settlement.Proofs.Currencies.Mirror
import Settlement.Proofs.Proposals

/-!
# Proposals in a currency

A step between documents of one currency proposes the same on the part in that currency as it does
among all documents.  A step between documents of which one is in another currency proposes
nothing in that currency, whatever it is.
-/

namespace Settlement

/-! ## Documents in a single currency -/

/-- All parts are in a currency. -/
structure Amounts.UsesOnly (currency : Currency) (amounts : Amounts) : Prop where
  pay : amounts.pay.currency = currency
  discount : amounts.discount.currency = currency
  writeOff : amounts.writeOff.currency = currency

/-- All amounts of the payable are in one currency. -/
structure Payable.SingleCurrency (payable : Payable) : Prop where
  openAmount : payable.openAmount.currency = payable.currency
  initial : payable.initial.UsesOnly payable.currency
  remaining : payable.remaining.UsesOnly payable.currency
  allocated : payable.allocated.UsesOnly payable.currency

/-- All amounts of the payment are in one currency. -/
structure Payment.SingleCurrency (payment : Payment) : Prop where
  openAmount : payment.openAmount.currency = payment.currency
  remaining : payment.remaining.currency = payment.currency
  allocated : payment.allocated.currency = payment.currency

namespace Documents

/-- Each document uses a single currency throughout; different ones may use different ones. -/
structure SingleCurrency (documents : Documents) : Prop where
  payables : ∀ payable ∈ documents.payables, payable.SingleCurrency
  payments : ∀ payment ∈ documents.payments, payment.SingleCurrency

variable {start whole : Documents}

/-- What is left of a payable stays in the payable's currency. -/
theorem SingleCurrency.payable_remaining (single : start.SingleCurrency) (kept : start.Kept whole)
    {payable : Payable} (mem : payable ∈ whole.payables) :
    payable.remaining.currency = payable.currency := by
  obtain ⟨given, given_mem, same⟩ := forall₂_mem_right kept.payables mem
  rw [same.remaining_eq, same.currency_eq]
  exact (single.payables given given_mem).remaining.pay

/-- What is left of a payment stays in the payment's currency. -/
theorem SingleCurrency.payment_remaining (single : start.SingleCurrency) (kept : start.Kept whole)
    {payment : Payment} (mem : payment ∈ whole.payments) :
    payment.remaining.currency = payment.currency := by
  obtain ⟨given, given_mem, same⟩ := forall₂_mem_right kept.payments mem
  rw [same.remaining_eq, same.currency_eq]
  exact (single.payments given given_mem).remaining

end Documents

/-! ## Candidates -/

/-- The documents that a candidate names are there, in its currency. -/
structure Documents.Names (documents : Documents) (candidate : Candidate) : Prop where
  payable : documents.Holds candidate.payable candidate.currency
  payment : ∀ reference, candidate.payment = some reference →
    documents.Holds reference candidate.currency

/-- What a document can take of a payable is in the currency of what is left of the payable. -/
theorem PaymentView.currency_share {view : PaymentView} {payable : Payable} {amounts : Amounts}
    (shared : view.share payable = .ok amounts) :
    amounts.currency = payable.remaining.currency := by
  unfold share at shared
  split at shared
  · obtain ⟨pay, -, shared⟩ := bind_eq_ok.mp shared
    exact Amounts.currency_withPay shared
  · obtain ⟨pay, -, shared⟩ := bind_eq_ok.mp shared
    exact Amounts.currency_withPay shared
  · cases shared
    rfl

namespace Proposal

/-- The same candidate in a currency, recorded on all documents and on the part in the currency. -/
structure Mirrors (start : Documents) (currency : Currency) (left right : Proposal) : Prop where
  candidate_eq : right.candidate = left.candidate
  currency_eq : left.candidate.currency = currency
  named : start.Names left.candidate
  record : ∀ ⦃whole part : Documents⦄, start.Mirrors currency whole part →
    (left.record whole).Same (start.Mirrors currency) (right.record part)

/-- A candidate in another currency, recorded without the part in a currency noticing. -/
structure Outside (start : Documents) (currency : Currency) (proposal : Proposal) : Prop where
  currency_ne : proposal.candidate.currency ≠ currency
  record : ∀ ⦃whole part : Documents⦄, start.Mirrors currency whole part →
    start.Mirrors currency (proposal.record whole).after part

end Proposal

/-- A document only fits payables in its own currency. -/
theorem PaymentView.currency_of_fits {view : PaymentView} {payable : Payable}
    (fits : view.fits payable = true) : payable.currency = view.currency := by
  have can := (Bool.and_eq_true_iff.mp fits).1
  cases view with
  | payment document => exact eq_of_beq can
  | creditMemo memo => exact eq_of_beq (Bool.and_eq_true_iff.mp can).2
  | purchaseInvoice bill => exact eq_of_beq (Bool.and_eq_true_iff.mp can).2

namespace Documents

variable {start whole part : Documents} {currency : Currency} {index position : Nat}
  {means means' : Means} {proposal : Proposal}

/-! ## Pairings -/

theorem Mirrors.pairing (mirrors : start.Mirrors currency whole part)
    (single : start.SingleCurrency)
    (position_eq : start.payablePosition? currency index = some position)
    (means_eq : start.means? currency means = some means') (kind : CandidateKind) :
    SameOutcome (Option.Rel (Proposal.Mirrors start currency)) (whole.pairing kind index means)
      (part.pairing kind position means') := by
  obtain ⟨payable, mem, whole_payable, part_payable, payable_currency⟩ :=
    mirrors.payable position_eq
  obtain ⟨view, whole_view, part_view, view_currency, view_held⟩ := mirrors.view means_eq
  have payable_held : whole.Holds payable.reference currency :=
    .inl ⟨payable, mem, rfl, payable_currency⟩
  have remaining_currency := single.payable_remaining mirrors.kept mem
  rw [Documents.pairing, Documents.pairing, whole_payable, part_payable, whole_view, part_view]
  simp only [orBroken_ok, ok_bind]
  split
  · exact .done .none
  split
  · exact .done .none
  apply (SameOutcome.self _).orBroken.bind
  rintro amounts _ ⟨rfl, shared⟩
  apply (SameOutcome.self _).orBroken.bind
  rintro payableOverUnder _ ⟨rfl, -⟩
  apply (SameOutcome.self _).orBroken.bind
  rintro paymentOverUnder _ ⟨rfl, -⟩
  apply (SameOutcome.self _).orRefused.bind
  rintro candidate _ ⟨rfl, completed⟩
  obtain ⟨-, payable_eq, payment_eq, amounts_eq⟩ := Candidate.Draft.parts_of_complete completed
  have currency_eq : candidate.currency = currency := by
    rw [Candidate.currency, ← Option.some.inj amounts_eq, PaymentView.currency_share shared,
      remaining_currency, payable_currency]
  refine .done (.some ⟨rfl, currency_eq, ⟨?_, ?_⟩, fun before before' before_mirrors => ?_⟩)
  · rw [currency_eq, ← Option.some.inj payable_eq]
    exact mirrors.kept.holds payable_held
  · intro reference reference_eq
    rw [currency_eq, ← Option.some.inj (payment_eq.trans reference_eq)]
    exact mirrors.kept.holds view_held
  · dsimp only
    refine (before_mirrors.allocate position_eq amounts).andThen ?_
    exact fun _ _ allocated => allocated.pay means_eq amounts.pay

/-- A pairing with a document in another currency proposes nothing in the currency. -/
theorem Mirrors.pairing_outside (mirrors : start.Mirrors currency whole part)
    (single : start.SingleCurrency)
    (outside : start.payablePosition? currency index = none ∨ start.means? currency means = none)
    {kind : CandidateKind} (proposed : whole.pairing kind index means = .ok (some proposal)) :
    proposal.Outside start currency := by
  obtain ⟨payable, view, pairs⟩ := pairing_eq_some proposed
  have same := PaymentView.currency_of_fits pairs.fits
  have other : payable.currency ≠ currency := by
    rcases outside with position_eq | means_eq
    · exact mirrors.payable_outside position_eq pairs.payable_eq
    · exact same ▸ mirrors.view_outside means_eq pairs.view_eq
  have mem := List.mem_of_getElem? (entry_eq_ok.mp pairs.payable_eq)
  have currency_eq : proposal.candidate.currency = payable.currency := by
    rw [Candidate.currency, PaymentView.currency_share pairs.shared,
      single.payable_remaining mirrors.kept mem]
  refine ⟨currency_eq ▸ other, fun before part' before_mirrors => ?_⟩
  rw [pairs.record_eq]
  refine Attempt.holds_andThen (start.Mirrors currency · part')
    (before_mirrors.allocate_outside (mirrors.payablePosition_eq_none pairs.payable_eq other) _) ?_
  exact fun allocated allocated_mirrors => allocated_mirrors.pay_outside
    (mirrors.means_eq_none pairs.view_eq (same ▸ other)) _

/-! ## Remainders -/

theorem Mirrors.remainder (mirrors : start.Mirrors currency whole part)
    (single : start.SingleCurrency)
    (position_eq : start.payablePosition? currency index = some position) :
    SameOutcome (Option.Rel (Proposal.Mirrors start currency)) (whole.remainder index)
      (part.remainder position) := by
  obtain ⟨payable, mem, whole_payable, part_payable, payable_currency⟩ :=
    mirrors.payable position_eq
  have payable_held : whole.Holds payable.reference currency :=
    .inl ⟨payable, mem, rfl, payable_currency⟩
  have remaining_currency := single.payable_remaining mirrors.kept mem
  rw [Documents.remainder, Documents.remainder, whole_payable, part_payable]
  simp only [orBroken_ok, ok_bind]
  split
  · exact .done .none
  rw [Documents.concession, Documents.concession, whole_payable, part_payable]
  simp only [orBroken_ok, ok_bind, bind_assoc]
  apply (SameOutcome.self _).orBroken.bind
  rintro payableOverUnder _ ⟨rfl, -⟩
  apply (SameOutcome.self _).orRefused.bind
  rintro candidate _ ⟨rfl, completed⟩
  obtain ⟨-, payable_eq, payment_eq, amounts_eq⟩ := Candidate.Draft.parts_of_complete completed
  have currency_eq : candidate.currency = currency := by
    rw [Candidate.currency, ← Option.some.inj amounts_eq, Amounts.currency_withZeroPay,
      remaining_currency, payable_currency]
  refine .done (.some ⟨rfl, currency_eq, ⟨?_, ?_⟩, fun before before' before_mirrors => ?_⟩)
  · rw [currency_eq, ← Option.some.inj payable_eq]
    exact mirrors.kept.holds payable_held
  · intro reference reference_eq
    cases payment_eq.trans reference_eq
  · exact before_mirrors.allocate position_eq payable.remaining.withZeroPay

/-- The remainder of a payable in another currency is not in the currency. -/
theorem Mirrors.remainder_outside (mirrors : start.Mirrors currency whole part)
    (single : start.SingleCurrency)
    (position_eq : start.payablePosition? currency index = none)
    (proposed : whole.remainder index = .ok (some proposal)) :
    proposal.Outside start currency := by
  obtain ⟨payable, concedes⟩ := remainder_eq_some proposed
  have mem := List.mem_of_getElem? (entry_eq_ok.mp concedes.payable_eq)
  have currency_eq : proposal.candidate.currency = payable.currency := by
    rw [Candidate.currency, concedes.amounts_eq, Amounts.currency_withZeroPay,
      single.payable_remaining mirrors.kept mem]
  refine ⟨currency_eq ▸ mirrors.payable_outside position_eq concedes.payable_eq,
    fun before part' before_mirrors => ?_⟩
  rw [concedes.record_eq]
  exact before_mirrors.allocate_outside position_eq _

/-! ## Reversals -/

variable {inbound outbound received_position made_position : Nat}

theorem Mirrors.reversal (mirrors : start.Mirrors currency whole part)
    (single : start.SingleCurrency)
    (inbound_eq : start.paymentPosition? currency inbound = some received_position)
    (outbound_eq : start.paymentPosition? currency outbound = some made_position) :
    SameOutcome (Option.Rel (Proposal.Mirrors start currency)) (whole.reversal inbound outbound)
      (part.reversal received_position made_position) := by
  obtain ⟨received, received_mem, whole_received, part_received, received_currency⟩ :=
    mirrors.payment inbound_eq
  obtain ⟨made, made_mem, whole_made, part_made, made_currency⟩ := mirrors.payment outbound_eq
  have received_held : whole.Holds received.reference currency :=
    .inr ⟨received, received_mem, rfl, received_currency⟩
  have made_held : whole.Holds made.reference currency :=
    .inr ⟨made, made_mem, rfl, made_currency⟩
  have remaining_currency := single.payment_remaining mirrors.kept received_mem
  rw [Documents.reversal, Documents.reversal, whole_received, part_received, whole_made, part_made]
  simp only [orBroken_ok, ok_bind]
  split
  · exact .done .none
  split
  · exact .done .none
  apply (SameOutcome.self _).orBroken.bind
  rintro amount _ ⟨rfl, larger⟩
  apply (SameOutcome.self _).orBroken.bind
  rintro payableOverUnder _ ⟨rfl, -⟩
  apply (SameOutcome.self _).orBroken.bind
  rintro paymentOverUnder _ ⟨rfl, -⟩
  apply (SameOutcome.self _).orRefused.bind
  rintro candidate _ ⟨rfl, completed⟩
  obtain ⟨-, payable_eq, payment_eq, amounts_eq⟩ := Candidate.Draft.parts_of_complete completed
  have currency_eq : candidate.currency = currency := by
    rw [Candidate.currency, ← Option.some.inj amounts_eq, Amounts.currency_ofPay,
      Money.currency_max larger, Money.currency_neg, remaining_currency, received_currency]
  refine .done (.some ⟨rfl, currency_eq, ⟨?_, ?_⟩, fun before before' before_mirrors => ?_⟩)
  · rw [currency_eq, ← Option.some.inj payable_eq]
    exact mirrors.kept.holds made_held
  · intro reference reference_eq
    rw [currency_eq, ← Option.some.inj (payment_eq.trans reference_eq)]
    exact mirrors.kept.holds received_held
  · dsimp only
    refine (before_mirrors.changePayment outbound_eq
      fun payment => payment.kept_allocate amount).andThen ?_
    exact fun _ _ changed => changed.changePayment inbound_eq
      fun payment => payment.kept_allocate amount.neg

/-- A reversal with a payment in another currency proposes nothing in the currency. -/
theorem Mirrors.reversal_outside (mirrors : start.Mirrors currency whole part)
    (single : start.SingleCurrency)
    (outside : start.paymentPosition? currency inbound = none ∨
      start.paymentPosition? currency outbound = none)
    (proposed : whole.reversal inbound outbound = .ok (some proposal)) :
    proposal.Outside start currency := by
  obtain ⟨received, made, reverses⟩ := reversal_eq_some proposed
  have same := reverses.currency_eq
  have other : received.currency ≠ currency := by
    rcases outside with inbound_eq | outbound_eq
    · exact mirrors.payment_outside inbound_eq reverses.received_eq
    · exact same ▸ mirrors.payment_outside outbound_eq reverses.made_eq
  have mem := List.mem_of_getElem? (entry_eq_ok.mp reverses.received_eq)
  have currency_eq : proposal.candidate.currency = received.currency := by
    rw [← single.payment_remaining mirrors.kept mem, ← received.remaining.currency_neg]
    exact Money.currency_max reverses.larger
  have inbound_eq := mirrors.paymentPosition_eq_none reverses.received_eq other
  have outbound_eq := mirrors.paymentPosition_eq_none reverses.made_eq (same ▸ other)
  refine ⟨currency_eq ▸ other, fun before part' before_mirrors => ?_⟩
  rw [reverses.record_eq]
  refine Attempt.holds_andThen (start.Mirrors currency · part')
    (before_mirrors.changePayment_outside outbound_eq fun payment => payment.kept_allocate _) ?_
  exact fun changed changed_mirrors => changed_mirrors.changePayment_outside inbound_eq
    fun payment => payment.kept_allocate _

end Documents
end Settlement
