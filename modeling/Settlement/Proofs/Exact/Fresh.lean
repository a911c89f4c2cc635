import Mathlib.Algebra.Order.Field.Basic
import Mathlib.Tactic.NormNum
import Settlement.Proofs.Exact.Documents
import Settlement.Run.Basic
import Settlement.Samples

/-!
# Fresh documents

A document is fresh when a draft has just been completed to it, its amounts are in one currency
with at most four fraction digits, and they are small together.  Fresh documents are exact and
are read as a sound book, whatever the policy.
-/

namespace Settlement

/-! ## Completed drafts -/

namespace Payable

/-- A payable as its draft leaves it: nothing has been allocated, and the document is kept in the
table of its kind. -/
structure Untouched (payable : Payable) : Prop where
  remaining_eq : payable.remaining = payable.initial
  allocated_eq : payable.allocated = Amounts.zero payable.currency
  open_currency : payable.openAmount.currency = payable.currency
  table : Draft.checkReference payable.kind payable.creditMemo payable.reference = .ok ()

theorem Draft.untouched {draft : Draft} {payable : Payable}
    (completed : draft.complete = .ok payable) : payable.Untouched := by
  unfold complete at completed
  obtain ⟨organization, -, completed⟩ := bind_eq_ok.mp completed
  obtain ⟨side, -, completed⟩ := bind_eq_ok.mp completed
  obtain ⟨reference, -, completed⟩ := bind_eq_ok.mp completed
  obtain ⟨amounts, -, completed⟩ := bind_eq_ok.mp completed
  obtain ⟨⟨⟩, table, completed⟩ := bind_eq_ok.mp completed
  obtain ⟨openAmount, -, completed⟩ := bind_eq_ok.mp completed
  split_ifs at completed with mismatch
  · cases completed
  · cases completed
    exact ⟨rfl, rfl, not_not.mp mismatch, table⟩

section

variable {payable : Payable} (untouched : payable.Untouched)

include untouched

/-- A document is kept as an invoice or as an order, and no order is a credit memo. -/
theorem Untouched.table_cases :
    (payable.kind = .invoice ∧ ∃ invoice, payable.reference = .invoice invoice) ∨
      (payable.kind = .prepayOrder ∧ payable.creditMemo = false ∧
        ∃ order, payable.reference = .order order) := by
  have table := untouched.table
  unfold Draft.checkReference at table
  split at table
  · rename_i invoice kind_eq reference_eq
    exact .inl ⟨kind_eq, invoice, reference_eq⟩
  · rename_i order kind_eq reference_eq
    split at table
    · cases table
    · rename_i plain
      exact .inr ⟨kind_eq, by simpa using plain, order, reference_eq⟩
  · cases table

theorem Untouched.invoice_reference (invoice : payable.kind = .invoice) :
    ∃ id, payable.reference = .invoice id := by
  rcases untouched.table_cases with ⟨-, kept⟩ | ⟨order, -⟩
  · exact kept
  · cases invoice.symm.trans order

theorem Untouched.kind_of_creditMemo (credit : payable.creditMemo = true) :
    payable.kind = .invoice := by
  rcases untouched.table_cases with ⟨invoice, -⟩ | ⟨-, plain, -⟩
  · exact invoice
  · cases plain.symm.trans credit

end

end Payable

/-- An amount that is not negative is not positive with the other sign, whatever its scale. -/
theorem Money.isPositive_neg {money : Money} (unsigned : money.isNegative = false) :
    money.neg.isPositive = false := by
  have nothing : ∀ scale, roundHalfEven 0 scale = 0 := fun scale =>
    Nat.le_zero.mp (roundHalfEven_le 0 scale)
  simp only [isNegative, isZero, Decimal.isZero] at unsigned
  simp only [isPositive, isZero, Decimal.isZero, neg, of, Decimal.round]
  split
  · cases sign : money.amount.negative <;> simp_all [Decimal.neg]
  · cases sign : money.amount.negative <;> simp_all [Decimal.neg]

namespace Payment

/-- A payment as its draft leaves it: nothing has been allocated, and its sign is that of its
direction. -/
structure Untouched (payment : Payment) : Prop where
  remaining_eq : payment.remaining = payment.initial
  allocated_eq : payment.allocated = Money.zero payment.currency
  open_currency : payment.openAmount.currency = payment.currency
  inbound_sign : payment.direction = .inbound → payment.initial.isNegative = false
  outbound_sign : payment.direction = .outbound → payment.initial.isPositive = false

theorem Draft.untouched {draft : Draft} {payment : Payment}
    (completed : draft.complete = .ok payment) : payment.Untouched := by
  unfold complete at completed
  obtain ⟨organization, -, completed⟩ := bind_eq_ok.mp completed
  obtain ⟨direction, -, completed⟩ := bind_eq_ok.mp completed
  obtain ⟨id, -, completed⟩ := bind_eq_ok.mp completed
  obtain ⟨amount, -, completed⟩ := bind_eq_ok.mp completed
  dsimp only at completed
  split at completed
  · cases completed
  split at completed
  · cases completed
  · rename_i unsigned mismatch
    cases completed
    have same : (draft.openAmount.getD amount).currency = amount.currency := not_not.mp mismatch
    have amount_unsigned : amount.isNegative = false := by
      cases negative : amount.isNegative with
      | true => simp [negative] at unsigned
      | false => rfl
    refine ⟨rfl, rfl, ?_, ?_, ?_⟩
    · cases direction <;> exact same
    · rintro rfl
      exact amount_unsigned
    · rintro rfl
      exact Money.isPositive_neg amount_unsigned

end Payment

/-! ## Fresh documents -/

/-- A payable that a draft has just been completed to, in one currency, with at most four fraction
digits, and with amounts that are small together. -/
structure Payable.Fresh (payable : Payable) : Prop where
  drafted : ∃ draft : Payable.Draft, draft.complete = .ok payable
  discount_currency : payable.initial.discount.currency = payable.currency
  writeOff_currency : payable.initial.writeOff.currency = payable.currency
  open_places : payable.openAmount.amount.scale ≤ 4
  pay_places : payable.initial.pay.amount.scale ≤ 4
  discount_places : payable.initial.discount.amount.scale ≤ 4
  writeOff_places : payable.initial.writeOff.amount.scale ≤ 4
  small : |payable.openAmount.amount.value| + |payable.initial.pay.amount.value| +
    |payable.initial.discount.amount.value| + |payable.initial.writeOff.amount.value| <
      2 ^ 96 / 10 ^ 4

/-- A payment that a draft has just been completed to, with at most four fraction digits and
amounts that are small together. -/
structure Payment.Fresh (payment : Payment) : Prop where
  drafted : ∃ draft : Payment.Draft, draft.complete = .ok payment
  open_places : payment.openAmount.amount.scale ≤ 4
  places : payment.initial.amount.scale ≤ 4
  small : |payment.openAmount.amount.value| + |payment.initial.amount.value| < 2 ^ 96 / 10 ^ 4

/-- All documents are fresh. -/
structure Documents.Fresh (documents : Documents) : Prop where
  payables : ∀ payable ∈ documents.payables, payable.Fresh
  payments : ∀ payment ∈ documents.payments, payment.Fresh

/-- The magnitude of a number on the grid is that of its ticks, divided by ten thousand. -/
theorem Decimal.abs_value {number : Decimal} (grid : number.OnGrid) :
    |number.value| = (number.ticks.natAbs : Rat) / 10 ^ 4 := by
  rw [value_eq_ticks grid, abs_div, Nat.cast_natAbs, Int.cast_abs]
  norm_num [tenTo, Money.places]

namespace Payable

variable {payable : Payable}

theorem Fresh.untouched (fresh : payable.Fresh) : payable.Untouched :=
  let ⟨_, completed⟩ := fresh.drafted
  Draft.untouched completed

theorem Fresh.exact (fresh : payable.Fresh) : payable.Exact := by
  have untouched := fresh.untouched
  have initial : payable.initial.Exact payable.currency :=
    ⟨⟨rfl, fresh.pay_places⟩, ⟨fresh.discount_currency, fresh.discount_places⟩,
      ⟨fresh.writeOff_currency, fresh.writeOff_places⟩⟩
  exact ⟨⟨untouched.open_currency, fresh.open_places⟩, initial, untouched.remaining_eq ▸ initial,
    untouched.allocated_eq ▸ Amounts.exact_zero _⟩

theorem Fresh.ticks_small (fresh : payable.Fresh) :
    payable.debt.openAmount.natAbs + payable.debt.initial.magnitude < coefficientLimit := by
  have small := fresh.small
  rw [Decimal.abs_value fresh.open_places, Decimal.abs_value fresh.pay_places,
    Decimal.abs_value fresh.discount_places, Decimal.abs_value fresh.writeOff_places, ← add_div,
    ← add_div, ← add_div, div_lt_div_iff_of_pos_right (by norm_num)] at small
  have whole : payable.openAmount.ticks.natAbs + payable.initial.pay.ticks.natAbs +
      payable.initial.discount.ticks.natAbs + payable.initial.writeOff.ticks.natAbs < 2 ^ 96 := by
    exact_mod_cast small
  have limit_eq : coefficientLimit = 2 ^ 96 := rfl
  rw [limit_eq, Parts.magnitude, ← Nat.add_assoc, ← Nat.add_assoc]
  exact whole

theorem Fresh.debt_remaining (fresh : payable.Fresh) :
    payable.debt.remaining = payable.debt.initial :=
  congrArg Amounts.parts fresh.untouched.remaining_eq

theorem Fresh.debt_allocated (fresh : payable.Fresh) : payable.debt.allocated = 0 :=
  (congrArg Amounts.parts fresh.untouched.allocated_eq).trans (Amounts.parts_zero _)

/-- Nothing has happened to the debt of a fresh payable. -/
theorem Fresh.sound (fresh : payable.Fresh) (policy : LeftoverPolicy) :
    payable.debt.Sound policy := by
  have remaining_eq := fresh.debt_remaining
  have allocated_eq := fresh.debt_allocated
  have waived_eq : payable.debt.waived = 0 := by
    simp [Debt.waived, remaining_eq, allocated_eq]
  have waivedTo_eq : ∀ target, payable.debt.waivedTo policy target = 0 := by
    intro target
    rw [Debt.waivedTo, waived_eq, ite_self]
  exact
    { small := fresh.ticks_small
      remaining_within := remaining_eq ▸ Within.refl _
      allocated_within := allocated_eq ▸ within_zero _
      waived_within := waived_eq ▸ within_zero _
      waived_open := fun _ => waived_eq
      waived_settled := fun waived => absurd waived_eq waived
      discount_balance := by simp [waivedTo_eq, remaining_eq, allocated_eq]
      writeOff_balance := by simp [waivedTo_eq, remaining_eq, allocated_eq]
      extras := .inl (remaining_eq ▸ ⟨rfl, rfl⟩) }

end Payable

namespace Payment

variable {payment : Payment}

theorem Fresh.untouched (fresh : payment.Fresh) : payment.Untouched :=
  let ⟨_, completed⟩ := fresh.drafted
  Draft.untouched completed

theorem Fresh.exact (fresh : payment.Fresh) : payment.Exact := by
  have untouched := fresh.untouched
  have initial : payment.initial.Exact payment.currency := ⟨rfl, fresh.places⟩
  exact ⟨⟨untouched.open_currency, fresh.open_places⟩, initial, untouched.remaining_eq ▸ initial,
    untouched.allocated_eq ▸ Money.exact_zero _⟩

theorem Fresh.ticks_small (fresh : payment.Fresh) :
    payment.fund.openAmount.natAbs + payment.fund.initial.natAbs < coefficientLimit := by
  have small := fresh.small
  rw [Decimal.abs_value fresh.open_places, Decimal.abs_value fresh.places, ← add_div,
    div_lt_div_iff_of_pos_right (by norm_num)] at small
  have limit_eq : coefficientLimit = 2 ^ 96 := rfl
  rw [limit_eq]
  exact_mod_cast small

theorem Fresh.fund_remaining (fresh : payment.Fresh) :
    payment.fund.remaining = payment.fund.initial :=
  congrArg Money.ticks fresh.untouched.remaining_eq

theorem Fresh.fund_allocated (fresh : payment.Fresh) : payment.fund.allocated = 0 :=
  (congrArg Money.ticks fresh.untouched.allocated_eq).trans (Money.ticks_zero _)

/-- The fund of a fresh payment is above or below zero by its direction. -/
theorem Fresh.fund_signs (fresh : payment.Fresh) :
    (payment.direction = .inbound → 0 ≤ payment.fund.initial) ∧
      (payment.direction = .outbound → payment.fund.initial ≤ 0) := by
  have ticks_eq : payment.fund.initial = payment.initial.ticks := rfl
  have negative_iff := payment.initial.isNegative_iff
  have positive_iff := payment.initial.isPositive_iff
  rw [ticks_eq]
  refine ⟨fun inbound => ?_, fun outbound => ?_⟩
  · rw [fresh.untouched.inbound_sign inbound] at negative_iff
    simpa using negative_iff
  · rw [fresh.untouched.outbound_sign outbound] at positive_iff
    simpa using positive_iff

/-- Nothing has happened to the fund of a fresh payment. -/
theorem Fresh.sound (fresh : payment.Fresh) : payment.fund.Sound := by
  have remaining_eq := fresh.fund_remaining
  have allocated_eq := fresh.fund_allocated
  exact
    { small := fresh.ticks_small
      remaining_within := remaining_eq ▸ Within.refl _
      balance := by rw [allocated_eq, remaining_eq, Int.zero_add] }

end Payment

namespace Documents

variable {documents : Documents}

theorem Fresh.exact (fresh : documents.Fresh) : documents.Exact :=
  ⟨fun payable mem => (fresh.payables payable mem).exact,
    fun payment mem => (fresh.payments payment mem).exact⟩

/-- Fresh documents are read as a sound book. -/
theorem Fresh.sound (fresh : documents.Fresh) (policy : LeftoverPolicy) :
    documents.book.Sound policy where
  debts debt mem := by
    obtain ⟨payable, payable_mem, rfl⟩ := List.mem_map.mp mem
    exact (fresh.payables payable payable_mem).sound policy
  funds fund mem := by
    obtain ⟨payment, payment_mem, rfl⟩ := List.mem_map.mp mem
    exact (fresh.payments payment payment_mem).sound

/-- Whatever is settled of fresh payments, what is left of them stays on the side of zero that
their direction says. -/
theorem Fresh.signs {policy : LeftoverPolicy} {after : Documents} (fresh : documents.Fresh)
    (later : Book.Later policy documents.book after.book) :
    ∀ payment ∈ after.payments, (payment.direction = .inbound → 0 ≤ payment.fund.remaining) ∧
      (payment.direction = .outbound → payment.fund.remaining ≤ 0) := by
  intro payment mem
  obtain ⟨fund, fund_mem, drawn⟩ := forall₂_mem_right later.funds (List.mem_map_of_mem mem)
  obtain ⟨given, given_mem, rfl⟩ := List.mem_map.mp fund_mem
  have direction_eq : payment.direction = given.direction :=
    congrArg Fund.Terms.direction drawn.terms_eq
  have given_fresh := fresh.payments given given_mem
  have within := drawn.remaining
  rw [given_fresh.fund_remaining] at within
  obtain ⟨inbound, outbound⟩ := given_fresh.fund_signs
  rw [direction_eq]
  unfold Within at within
  exact ⟨fun received => by have := inbound received; omega,
    fun made => by have := outbound made; omega⟩

end Documents

/-! ## Fresh samples -/

namespace Samples

/-- The draft of an invoice or credit memo in US dollars, with signed amounts in cents. -/
def invoiceDraft (record : Nat) (side : TradeSide) (creditMemo : Bool)
    (pay discount writeOff : Int64) : Payable.Draft where
  organization := some organization
  partner := some partner
  number := invoiceNumber
  side := some side
  creditMemo := creditMemo
  reference := some (.invoice (.ofNat record))
  openAmount := some (.ofMinor pay .usd)
  amounts := some ⟨.ofMinor pay .usd, .ofMinor discount .usd, .ofMinor writeOff .usd⟩

/-- The invoice or credit memo of such a draft. -/
def invoice (record : Nat) (side : TradeSide) (creditMemo : Bool)
    (pay discount writeOff : Int64) : Payable where
  kind := .invoice
  organization := organization
  partner := some partner
  number := invoiceNumber
  side := side
  creditMemo := creditMemo
  reference := .invoice (.ofNat record)
  openAmount := .ofMinor pay .usd
  initial := ⟨.ofMinor pay .usd, .ofMinor discount .usd, .ofMinor writeOff .usd⟩
  remaining := ⟨.ofMinor pay .usd, .ofMinor discount .usd, .ofMinor writeOff .usd⟩
  allocated := Amounts.zero .usd

theorem complete_invoiceDraft (record : Nat) (side : TradeSide) (creditMemo : Bool)
    (pay discount writeOff : Int64) :
    (invoiceDraft record side creditMemo pay discount writeOff).complete =
      .ok (invoice record side creditMemo pay discount writeOff) := rfl

/-- The draft of a payment in US dollars, with an unsigned amount in cents. -/
def paymentDraft (record : Nat) (direction : Direction) (amount : Int64) : Payment.Draft where
  organization := some organization
  partner := some partner
  number := paymentNumber
  direction := some direction
  id := some (.ofNat record)
  amount := some (.ofMinor amount .usd)

/-- The payment of such a draft. -/
def payment (record : Nat) (direction : Direction) (amount : Int64) : Payment where
  organization := organization
  partner := some partner
  number := paymentNumber
  direction := direction
  id := .ofNat record
  openAmount := Payment.signed direction (.ofMinor amount .usd)
  initial := Payment.signed direction (.ofMinor amount .usd)
  remaining := Payment.signed direction (.ofMinor amount .usd)
  allocated := Money.zero .usd

theorem complete_paymentDraft (record : Nat) (direction : Direction) (amount : Int64)
    (unsigned : (Money.ofMinor amount .usd).isNegative = false) :
    (paymentDraft record direction amount).complete = .ok (payment record direction amount) := by
  have signed_currency : (Payment.signed direction (.ofMinor amount .usd)).currency = .usd := by
    cases direction <;> rfl
  simp [paymentDraft, Payment.Draft.complete, required, unsigned, payment, signed_currency, bind,
    Except.bind, pure, Except.pure]

theorem invoice_fresh {record : Nat} {side : TradeSide} {creditMemo : Bool}
    {pay discount writeOff : Int64}
    (small : |(Money.ofMinor pay .usd).amount.value| + |(Money.ofMinor pay .usd).amount.value| +
      |(Money.ofMinor discount .usd).amount.value| +
      |(Money.ofMinor writeOff .usd).amount.value| < 2 ^ 96 / 10 ^ 4) :
    (invoice record side creditMemo pay discount writeOff).Fresh where
  drafted := ⟨_, complete_invoiceDraft record side creditMemo pay discount writeOff⟩
  discount_currency := rfl
  writeOff_currency := rfl
  open_places := Decimal.scale_round_le 4 _
  pay_places := Decimal.scale_round_le 4 _
  discount_places := Decimal.scale_round_le 4 _
  writeOff_places := Decimal.scale_round_le 4 _
  small := small

theorem payment_fresh {record : Nat} {direction : Direction} {amount : Int64}
    (unsigned : (Money.ofMinor amount .usd).isNegative = false)
    (small : |(Payment.signed direction (.ofMinor amount .usd)).amount.value| +
      |(Payment.signed direction (.ofMinor amount .usd)).amount.value| < 2 ^ 96 / 10 ^ 4) :
    (payment record direction amount).Fresh where
  drafted := ⟨_, complete_paymentDraft record direction amount unsigned⟩
  open_places := by cases direction <;> exact Decimal.scale_round_le 4 _
  places := by cases direction <;> exact Decimal.scale_round_le 4 _
  small := small

/-- A sales invoice with discount and write-off, a customer's credit memo, a purchase invoice,
an invoice that carries nothing but a discount, and a payment in each direction. -/
def documents : Documents where
  payables :=
    [invoice 1 .sales false 10025 200 100, invoice 2 .sales true (-3050) 0 0,
      invoice 3 .purchase false (-2000) 0 0, invoice 4 .sales false 0 300 0]
  payments := [payment 5 .inbound 6075, payment 6 .outbound 1500]

theorem documents_fresh : documents.Fresh where
  payables := by
    simp only [documents, List.mem_cons, List.not_mem_nil, or_false, forall_eq_or_imp, forall_eq]
    exact ⟨invoice_fresh (by decide +kernel), invoice_fresh (by decide +kernel),
      invoice_fresh (by decide +kernel), invoice_fresh (by decide +kernel)⟩
  payments := by
    simp only [documents, List.mem_cons, List.not_mem_nil, or_false, forall_eq_or_imp, forall_eq]
    exact ⟨payment_fresh (by decide) (by decide +kernel),
      payment_fresh (by decide) (by decide +kernel)⟩

/-- A run over the samples that lets purchase invoices settle sales invoices and accepts what
stays open. -/
def run : Run where
  documents := documents
  settings := { partialAllocations := true, compensation := true }
  transactionDate := some transactionDate
  accountingDate := some accountingDate

end Samples
end Settlement
