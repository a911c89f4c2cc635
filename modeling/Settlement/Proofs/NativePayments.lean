import Settlement.Proofs.AfterPayments
import Settlement.Proofs.Balances
import Settlement.Proofs.CreditMemos.Histories
import Settlement.Proofs.Guards
import Settlement.Proofs.OrderIndependence

/-!
# Credit memos pay like native payments

A credit memo that acts as a payment behaves like a native payment of the opposite sign.  Where
payments take the place of all credit memos, the invoices are matched as before: one candidate for
another and in the same order, with the same amounts, and with what stays open of the payment
negated.
-/

namespace Settlement

/-- The payment starts with the opposite of what the credit memo starts with, and has the opposite
open. -/
structure Payment.Opposes (memo : Payable) (payment : Payment) : Prop where
  initial : payment.initial.SameValue memo.initial.pay.neg
  openAmount : payment.openAmount.SameValue memo.openAmount.neg

/-- One candidate settles with a credit memo what another one settles with the payment in its
place. -/
structure Candidate.Restates (memos : List Payable) (payments : List Payment)
    (credited paid : Candidate) : Prop where
  organization_eq : paid.organization = credited.organization
  partner_eq : paid.partner = credited.partner
  payable_eq : paid.payable = credited.payable
  /-- The two are paid with the credit memo and the payment at one place. -/
  payment_eq : ∃ pair ∈ memos.zip payments,
    credited.payment = some pair.1.reference ∧ paid.payment = some pair.2.reference
  amounts : paid.amounts.SameValue credited.amounts
  payableOverUnder : paid.payableOverUnder.SameValue credited.payableOverUnder
  /-- What stays open of a payment has the opposite sign. -/
  paymentOverUnder : paid.paymentOverUnder.SameValue credited.paymentOverUnder.neg

namespace Documents

/-- The payables that are not credit memos. -/
def invoices (documents : Documents) : List Payable := documents.payables.filter (!·.creditMemo)

/-- The credit memos. -/
def creditMemos (documents : Documents) : List Payable := documents.payables.filter (·.creditMemo)

/-- The invoices with payments in place of the credit memos. -/
def inCash (documents : Documents) (payments : List Payment) : Documents where
  payables := documents.invoices
  payments := payments

/-- Fresh invoices and credit memos of one side in one currency, in any order, and a fresh payment
for each credit memo that opposes it. -/
structure Opposed (side : TradeSide) (currency : Currency) (documents : Documents)
    (payments : List Payment) : Prop where
  fresh : documents.Fresh
  distinct : documents.references.Nodup
  unpaid : documents.payments = []
  invoice_kind : ∀ payable ∈ documents.payables, payable.creditMemo = false →
    payable.kind = .invoice
  side_eq : ∀ payable ∈ documents.payables, payable.side = side
  currency_eq : ∀ payable ∈ documents.payables, payable.currency = currency
  payments_fresh : ∀ payment ∈ payments, payment.Fresh
  payments_distinct : (documents.inCash payments).references.Nodup
  opposes : List.Forall₂ Payment.Opposes documents.creditMemos payments

/-- The references of credit memos and of the payments in their place. -/
def links (memos : List Payable) (payments : List Payment) : List (Reference × Reference) :=
  (memos.zip payments).map fun pair => (pair.1.reference, pair.2.reference)

end Documents

/-! ## Books -/

/-- The fund of a payment that opposes a credit memo stands for the debt. -/
theorem Payment.Opposes.fund {memo : Payable} {payment : Payment}
    {links : List (Reference × Reference)} (opposes : payment.Opposes memo)
    (memo_fresh : memo.Fresh) (payment_fresh : payment.Fresh)
    (linked : (memo.reference, payment.reference) ∈ links) :
    payment.fund.Opposes links memo.debt := by
  have pay_exact := memo_fresh.exact.initial.pay
  have open_exact := memo_fresh.exact.openAmount
  have currency_eq : payment.currency = memo.currency :=
    opposes.initial.2.trans pay_exact.neg.currency_eq
  have initial_exact : payment.initial.Exact memo.currency :=
    currency_eq ▸ payment_fresh.exact.initial
  have initial_eq : payment.fund.initial = -memo.debt.initial.pay :=
    ((initial_exact.sameValue_iff pay_exact.neg).mp opposes.initial).trans
      (Money.ticks_neg pay_exact)
  have paid_exact : payment.openAmount.Exact memo.currency :=
    currency_eq ▸ payment_fresh.exact.openAmount
  exact
    { linked := linked
      currency_eq := currency_eq
      openAmount_eq := ((paid_exact.sameValue_iff open_exact.neg).mp opposes.openAmount).trans
        (Money.ticks_neg open_exact)
      initial_eq := initial_eq
      remaining_eq := by
        rw [payment_fresh.fund_remaining, memo_fresh.debt_remaining, initial_eq]
      allocated_eq := by
        rw [payment_fresh.fund_allocated, memo_fresh.debt_allocated]
        rfl }

namespace Documents.Opposed

variable {side : TradeSide} {currency : Currency} {documents : Documents}
  {payments : List Payment} {settings : Settings}

section

variable (opposed : documents.Opposed side currency payments)

include opposed

theorem fresh_inCash : (documents.inCash payments).Fresh where
  payables payable mem := opposed.fresh.payables payable (List.mem_of_mem_filter mem)
  payments := opposed.payments_fresh

/-- All documents are invoices or credit memos of one side in one currency, and so are the
debts. -/
theorem uniform : documents.book.Uniform side currency := by
  intro debt mem
  obtain ⟨payable, payable_mem, rfl⟩ := List.mem_map.mp mem
  refine ⟨?_, opposed.side_eq payable payable_mem, opposed.currency_eq payable payable_mem⟩
  cases credit : payable.creditMemo with
  | false => exact opposed.invoice_kind payable payable_mem credit
  | true => exact (opposed.fresh.payables payable payable_mem).untouched.kind_of_creditMemo credit

theorem restates : documents.book.Restates (links documents.creditMemos payments)
    (documents.inCash payments).book where
  invoices := by
    rw [book, book, List.filter_map]
    rfl
  memos := by
    have opposes := opposed.opposes
    rw [List.forall₂_iff_zip] at opposes
    rw [book, book, List.filter_map, List.forall₂_map_left_iff, List.forall₂_map_right_iff,
      List.forall₂_iff_zip]
    refine ⟨opposes.1, fun {memo payment} mem => ?_⟩
    have memo_mem : memo ∈ documents.creditMemos := (List.of_mem_zip mem).1
    exact (opposes.2 mem).fund
      (opposed.fresh.payables memo (List.mem_of_mem_filter memo_mem))
      (opposed.payments_fresh payment (List.of_mem_zip mem).2) (List.mem_map_of_mem mem)

theorem start (policy : LeftoverPolicy) :
    History.Restates (links documents.creditMemos payments) policy side currency
      { book := documents.book } { book := (documents.inCash payments).book } where
  book := opposed.restates
  deals := .nil
  uniform := opposed.uniform
  credited_sound := opposed.fresh.sound policy
  credited_distinct := distinct_book opposed.distinct
  paid_sound := opposed.fresh_inCash.sound policy
  paid_distinct := distinct_book opposed.payments_distinct

end

end Documents.Opposed

/-! ## Candidates -/

namespace Candidate

/-- One candidate restates the other, or both settle something without a payment. -/
def Alike (memos : List Payable) (payments : List Payment) (credited paid : Candidate) : Prop :=
  credited.kind = .invoiceToCreditMemo ∧ paid.kind = .invoiceToPayment ∧
      credited.Restates memos payments paid ∨
    credited.kind = .invoiceDiscountOrWriteOff ∧ paid.kind = .invoiceDiscountOrWriteOff

variable {memos : List Payable} {payments : List Payment} {credited paid : Candidate}

/-- Exact candidates restate one another when their entries do. -/
theorem restates_of_entry (credited_exact : credited.Exact) (paid_exact : paid.Exact)
    (restates : credited.entry.Restates (Documents.links memos payments) paid.entry) :
    credited.Restates memos payments paid := by
  have currency_eq : paid.currency = credited.currency := restates.currency_eq
  obtain ⟨paid_amounts, paid_payable, paid_payment⟩ := paid_exact
  rw [currency_eq] at paid_amounts paid_payable paid_payment
  obtain ⟨link, link_mem, credited_payment, paid_by⟩ := restates.linked
  obtain ⟨pair, pair_mem, rfl⟩ := List.mem_map.mp link_mem
  have negated := Money.ticks_neg credited_exact.paymentOverUnder
  exact
    { organization_eq := restates.organization_eq
      partner_eq := restates.partner_eq
      payable_eq := restates.payable_eq
      payment_eq := ⟨pair, pair_mem, credited_payment, paid_by⟩
      amounts := (paid_amounts.sameValue_iff credited_exact.amounts).mpr restates.parts_eq
      payableOverUnder := (paid_payable.sameValue_iff credited_exact.payableOverUnder).mpr
        restates.payableOverUnder_eq
      paymentOverUnder := (paid_payment.sameValue_iff credited_exact.paymentOverUnder.neg).mpr
        (restates.paymentOverUnder_eq.trans negated.symm) }

theorem alike_of_entry (credited_exact : credited.Exact) (paid_exact : paid.Exact)
    (alike : credited.entry.Alike (Documents.links memos payments) paid.entry) :
    credited.Alike memos payments paid := by
  rcases alike with restates | ⟨conceded, same⟩
  · exact .inl ⟨restates.credited_kind, restates.paid_kind,
      restates_of_entry credited_exact paid_exact restates⟩
  · exact .inr ⟨conceded, (congrArg Entry.kind same).trans conceded⟩

/-- The one is paid with a credit memo where the other is paid with a payment. -/
theorem Alike.kinds (alike : credited.Alike memos payments paid) :
    (credited.kind == .invoiceToCreditMemo) = (paid.kind == .invoiceToPayment) := by
  rcases alike with ⟨credited_kind, paid_kind, -⟩ | ⟨credited_kind, paid_kind⟩
  · rw [credited_kind, paid_kind]
    rfl
  · rw [credited_kind, paid_kind]
    rfl

theorem Alike.restates (alike : credited.Alike memos payments paid)
    (kind_eq : credited.kind = .invoiceToCreditMemo) : credited.Restates memos payments paid := by
  rcases alike with ⟨-, -, restates⟩ | ⟨conceded, -⟩
  · exact restates
  · cases kind_eq.symm.trans conceded

end Candidate

namespace Documents.Opposed

variable {side : TradeSide} {currency : Currency} {documents : Documents}
  {payments : List Payment} {settings : Settings}

/-- Up to the payments, both settlements have made candidates alike. -/
theorem matched (opposed : documents.Opposed side currency payments)
    (uncompensated : settings.compensation = false) :
    List.Forall₂ (Candidate.Alike documents.creditMemos payments)
      (documents.matched settings).1.candidates
      ((documents.inCash payments).matched settings).1.candidates := by
  have passes_eq : settings.early ++ [.payments] = [Pass.creditMemos, .payments] := by
    simp [Settings.early, uncompensated]
  have follows := opposed.fresh.matched_follows settings
  have follows' := opposed.fresh_inCash.matched_follows settings
  rw [passes_eq] at follows follows'
  have unfunded : documents.book.funds = [] := List.map_eq_nil_iff.mpr opposed.unpaid
  have deals := ((opposed.start settings.leftover).runPasses unfunded).deals
  rw [← follows.history_eq, ← follows'.history_eq] at deals
  rw [Progress.candidates, Progress.candidates, List.forall₂_map_left_iff,
    List.forall₂_map_right_iff]
  refine forall₂_of_map deals ?_
  intro posting mem posting' mem' alike
  exact Candidate.alike_of_entry (follows.exact.postings posting mem).candidate
    (follows'.exact.postings posting' mem').candidate alike

/-- Settlements that come to their end have made candidates that restate one another. -/
theorem settle (opposed : documents.Opposed side currency payments)
    (uncompensated : settings.compensation = false)
    (ended : (documents.settle settings).2 = none)
    (ended' : ((documents.inCash payments).settle settings).2 = none) :
    List.Forall₂ (Candidate.Restates documents.creditMemos payments)
      ((documents.settle settings).1.candidates.filter (·.kind == .invoiceToCreditMemo))
      (((documents.inCash payments).settle settings).1.candidates.filter
        (·.kind == .invoiceToPayment)) := by
  rw [settle_kind rfl ended, settle_kind rfl ended']
  have alike := forall₂_filter (opposed.matched uncompensated) fun _ _ same => same.kinds
  have credited : ∀ candidate ∈ (documents.matched settings).1.candidates.filter
      (·.kind == .invoiceToCreditMemo), candidate.kind = .invoiceToCreditMemo :=
    fun _ mem => beq_iff_eq.mp (List.mem_filter.mp mem).2
  exact ((List.forall₂_and_left _ _).mpr ⟨credited, alike⟩).imp
    fun _ _ same => same.2.restates same.1

/-- There are documents with the payments where there are documents without them. -/
theorem isEmpty_inCash (opposed : documents.Opposed side currency payments) :
    (documents.inCash payments).isEmpty = documents.isEmpty := by
  have paired : payments = [] ↔ documents.creditMemos = [] := by
    rw [← List.isEmpty_iff, ← List.isEmpty_iff, forall₂_isEmpty opposed.opposes]
  rw [Bool.eq_iff_iff, isEmpty_iff, isEmpty_iff, and_iff_left opposed.unpaid, inCash, paired,
    invoices, creditMemos, List.filter_eq_nil_iff, List.filter_eq_nil_iff]
  constructor
  · rintro ⟨no_invoices, no_memos⟩
    refine List.eq_nil_iff_forall_not_mem.mpr fun payable mem => ?_
    exact no_invoices payable mem (by simpa using no_memos payable mem)
  · rintro none_given
    simp [none_given]

end Documents.Opposed

/-! ## Builds -/

theorem Documents.check_unguarded {documents : Documents} {settings : Settings}
    (unguarded : settings.onlyOneVendorDocument = false) :
    documents.check settings = if documents.isEmpty then .error .noDocuments else .ok () := by
  rw [check, unguarded]
  rfl

namespace Run

variable {τ σ : Type} [TransactionManager τ] [TransactionManager σ]

/-- The run over the invoices with payments in place of the credit memos. -/
def inCash (run : Run) (payments : List Payment) : Run :=
  { run with documents := run.documents.inCash payments }

/-- A dry run over invoices and credit memos matches them as the run with opposite payments in
place of the credit memos does: candidate by candidate, in the same order.  It returns a result
unless there are no documents. -/
theorem build_inCash (run : Run) {payments : List Payment} (manager : Option τ) (other : Option σ)
    {side : TradeSide} {currency : Currency}
    (opposed : run.documents.Opposed side currency payments)
    (unguarded : run.settings.onlyOneVendorDocument = false)
    (uncompensated : run.settings.compensation = false) (dry : run.dryRun = true)
    (unbuilt : run.built = false) :
    SameOutcome
        (fun result paid =>
          List.Forall₂ (Candidate.Restates run.documents.creditMemos payments)
            (result.candidates.filter (·.kind == .invoiceToCreditMemo))
            (paid.candidates.filter (·.kind == .invoiceToPayment)))
        (run.build manager).result ((run.inCash payments).build other).result ∧
      (run.documents.payables ≠ [] → ∃ result, (run.build manager).result = .ok result) := by
  have unbuilt' : (run.inCash payments).built = false := unbuilt
  have checked := run.documents.check_unguarded unguarded
  have checked' := (run.documents.inCash payments).check_unguarded unguarded
  rw [opposed.isEmpty_inCash] at checked'
  by_cases empty : run.documents.isEmpty = true
  · rw [if_pos empty] at checked checked'
    rw [build_of_check unbuilt checked, build_of_check unbuilt' checked']
    exact ⟨.failed _, fun some_payables => absurd (Documents.isEmpty_iff.mp empty).1 some_payables⟩
  · rw [if_neg empty] at checked checked'
    have ended := opposed.fresh.settle_ends opposed.distinct checked
    have ended' := opposed.fresh_inCash.settle_ends opposed.payments_distinct checked'
    rw [result_of_dry unbuilt dry ended, result_of_dry unbuilt' dry ended',
      progress_of_unbuilt unbuilt, progress_of_unbuilt unbuilt']
    exact ⟨.done (opposed.settle uncompensated ended ended'), fun _ => ⟨_, rfl⟩⟩

end Run

/-- A dry run over two sales invoices and a credit memo after each, which writes off what no credit
memo covers. -/
def Samples.credited : Run where
  documents :=
    { payables :=
        [invoice 1 .sales false 10000 200 0, invoice 2 .sales true (-6000) 0 0,
          invoice 3 .sales false 5000 0 100, invoice 4 .sales true (-7000) (-300) 0] }
  settings := { onlyOneVendorDocument := false, leftover := .writeOff }
  dryRun := true

/-- Payments received in place of the credit memos. -/
def Samples.received : List Payment := [payment 5 .inbound 6000, payment 6 .inbound 7000]

theorem Samples.credited_opposes :
    List.Forall₂ Payment.Opposes credited.documents.creditMemos received := by
  have memos_eq : credited.documents.creditMemos =
      [invoice 2 .sales true (-6000) 0 0, invoice 4 .sales true (-7000) (-300) 0] := rfl
  rw [memos_eq]
  exact .cons ⟨by decide +kernel, by decide +kernel⟩
    (.cons ⟨by decide +kernel, by decide +kernel⟩ .nil)

theorem Samples.credited_fresh : credited.documents.Fresh where
  payables := by
    simp only [credited, List.mem_cons, List.not_mem_nil, or_false, forall_eq_or_imp, forall_eq]
    exact ⟨invoice_fresh (by decide +kernel), invoice_fresh (by decide +kernel),
      invoice_fresh (by decide +kernel), invoice_fresh (by decide +kernel)⟩
  payments _ mem := absurd mem List.not_mem_nil

theorem Samples.credited_opposed : credited.documents.Opposed .sales .usd received where
  fresh := credited_fresh
  distinct := by decide +kernel
  unpaid := rfl
  invoice_kind := by decide +kernel
  side_eq := by decide +kernel
  currency_eq := by decide +kernel
  payments_fresh := by
    simp only [received, List.mem_cons, List.not_mem_nil, or_false, forall_eq_or_imp, forall_eq]
    exact ⟨payment_fresh (by decide) (by decide +kernel),
      payment_fresh (by decide) (by decide +kernel)⟩
  payments_distinct := by decide +kernel
  opposes := credited_opposes

/-- The second credit memo pays what the first one leaves of the first invoice and then some of the
second one, and so does the payment in its place. -/
theorem Run.build_inCash_credited :
    Samples.credited.documents.Opposed .sales .usd Samples.received ∧
      (Samples.credited.build (none : Option MemoryManager)).result.map
          (·.candidates.map fun candidate => (candidate.payable, candidate.payment)) =
        .ok [(.invoice (.ofNat 1), some (.invoice (.ofNat 2))),
          (.invoice (.ofNat 1), some (.invoice (.ofNat 4))),
          (.invoice (.ofNat 3), some (.invoice (.ofNat 4))),
          (.invoice (.ofNat 3), none), (.invoice (.ofNat 4), none)] ∧
      SameOutcome
        (fun result paid =>
          List.Forall₂ (Candidate.Restates Samples.credited.documents.creditMemos Samples.received)
            (result.candidates.filter (·.kind == .invoiceToCreditMemo))
            (paid.candidates.filter (·.kind == .invoiceToPayment)))
        (Samples.credited.build (none : Option MemoryManager)).result
        ((Samples.credited.inCash Samples.received).build (none : Option MemoryManager)).result ∧
      ∃ result, (Samples.credited.build (none : Option MemoryManager)).result = .ok result := by
  have settled : (Samples.credited.build (none : Option MemoryManager)).result.map
      (·.candidates.map fun candidate => (candidate.payable, candidate.payment)) =
        .ok [(.invoice (.ofNat 1), some (.invoice (.ofNat 2))),
          (.invoice (.ofNat 1), some (.invoice (.ofNat 4))),
          (.invoice (.ofNat 3), some (.invoice (.ofNat 4))),
          (.invoice (.ofNat 3), none), (.invoice (.ofNat 4), none)] := by decide +kernel
  obtain ⟨same, returns⟩ := build_inCash Samples.credited (none : Option MemoryManager)
    (none : Option MemoryManager) Samples.credited_opposed rfl rfl rfl rfl
  exact ⟨Samples.credited_opposed, settled, same, returns (List.cons_ne_nil _ _)⟩

end Settlement
