import Settlement.Proofs.Exact.Builds
import Settlement.Proofs.Exact.Totals
import Settlement.Proofs.Exact.Weights
import Settlement.Store.Manager

/-!
# Double entry

Money that is allocated to a payable is taken from a payment or from another payable, and nothing
else is ever allocated.  In every currency, payables and payments have therefore been allocated
the same amount, whenever a build stops.
-/

namespace Settlement

/-- In every currency, the same amount has been allocated to the payables, without discounts and
write-offs, as to the payments. -/
def Documents.Even (documents : Documents) : Prop :=
  ∀ currency : Currency,
    total (·.allocated.pay.currency == currency) (·.allocated.pay) documents.payables =
      total (·.allocated.currency == currency) (·.allocated) documents.payments

/-! ## One currency weighed -/

namespace Weights

/-- The debts of a currency count for it, and its funds against it. -/
def ofCurrency (currency : Currency) : Weights where
  debt terms := if terms.currency = currency then 1 else 0
  fund terms := if terms.currency = currency then -1 else 0

theorem balanced_ofCurrency (currency : Currency) : (ofCurrency currency).Balanced where
  pair paying debt fits := by
    have same := Source.currency_of_fits fits
    cases paying with
    | fund fund =>
        simp only [source, ofCurrency, Source.currency] at same ⊢
        split_ifs <;> simp_all
    | creditMemo memo =>
        simp only [source, ofCurrency, Source.currency] at same ⊢
        rw [same, add_neg_cancel]
    | purchaseInvoice bill =>
        simp only [source, ofCurrency, Source.currency] at same ⊢
        rw [same, add_neg_cancel]
  reverse received made same := by simp only [ofCurrency, same]

end Weights

namespace Documents

variable {documents : Documents}

theorem weighed_payables (currency : Currency) {payables : List Payable}
    (exact : ∀ payable ∈ payables, payable.Exact) :
    ((payables.map Payable.debt).map fun debt =>
      (Weights.ofCurrency currency).debt debt.toTerms * debt.allocated.pay).sum =
      totalTicks (·.allocated.pay.currency == currency) (·.allocated.pay) payables := by
  induction payables with
  | nil => rfl
  | cons payable rest ih =>
      have same := (exact payable (by simp)).allocated.pay.currency_eq
      have tail := ih fun other mem => exact other (by simp [mem])
      rw [totalTicks_cons, same, List.map_cons, List.map_cons, List.sum_cons, tail]
      simp [Weights.ofCurrency, Payable.debt]

theorem weighed_payments (currency : Currency) {payments : List Payment}
    (exact : ∀ payment ∈ payments, payment.Exact) :
    ((payments.map Payment.fund).map fun fund =>
      (Weights.ofCurrency currency).fund fund.toTerms * fund.allocated).sum =
      -totalTicks (·.allocated.currency == currency) (·.allocated) payments := by
  induction payments with
  | nil => rfl
  | cons payment rest ih =>
      have same := (exact payment (by simp)).allocated.currency_eq
      have tail := ih fun other mem => exact other (by simp [mem])
      rw [totalTicks_cons, same, List.map_cons, List.map_cons, List.sum_cons, tail]
      simp only [Weights.ofCurrency, Payment.fund, beq_iff_eq]
      split_ifs <;> omega

/-- Documents are even once no currency has a balance. -/
theorem even_of_settled (exact : documents.Exact)
    (balanced : ∀ currency, documents.book.settled (.ofCurrency currency) = 0) :
    documents.Even := by
  intro currency
  have nothing := balanced currency
  rw [Book.settled, Book.weigh, book, weighed_payables currency exact.payables,
    weighed_payments currency exact.payments, ← sub_eq_add_neg, sub_eq_zero] at nothing
  rw [total_eq _ fun payable mem => (exact.payables payable mem).allocated.pay.grid,
    total_eq _ fun payment mem => (exact.payments payment mem).allocated.grid, nothing]

/-- Nothing has been allocated to fresh documents. -/
theorem Fresh.settled_eq (fresh : documents.Fresh) (weights : Weights) :
    documents.book.settled weights = 0 := by
  rw [Book.settled, Book.weigh, List.sum_eq_zero, List.sum_eq_zero, add_zero]
  · intro amount mem
    obtain ⟨fund, fund_mem, rfl⟩ := List.mem_map.mp mem
    obtain ⟨payment, payment_mem, rfl⟩ := List.mem_map.mp fund_mem
    rw [(fresh.payments payment payment_mem).fund_allocated, mul_zero]
  · intro amount mem
    obtain ⟨debt, debt_mem, rfl⟩ := List.mem_map.mp mem
    obtain ⟨payable, payable_mem, rfl⟩ := List.mem_map.mp debt_mem
    rw [(fresh.payables payable payable_mem).debt_allocated, Parts.pay_zero, mul_zero]

end Documents

/-! ## Builds -/

namespace Run

variable {τ : Type} [TransactionManager τ]

/-- A build keeps double entry, whatever it returns: after each of its postings and at its end,
payables and payments have been allocated the same amount of every currency. -/
theorem build_conserves (run : Run) (manager : Option τ) (fresh : run.documents.Fresh) :
    (∀ posting ∈ (run.build manager).postings, posting.documents.Even) ∧
      (run.build manager).run.documents.Even := by
  have exact := progress_exact fresh
  have kept := fun currency =>
    (progress_trail fresh).settled_eq (Weights.balanced_ofCurrency currency)
  rw [run_build, postings_build]
  constructor
  · intro posting mem
    apply Documents.even_of_settled (exact.postings posting mem).documents
    intro currency
    exact ((kept currency).2 posting.deal (List.mem_map_of_mem mem)).trans (fresh.settled_eq _)
  · apply Documents.even_of_settled exact.documents
    intro currency
    exact (kept currency).1.trans (fresh.settled_eq _)

end Run

/-- A run that stops at a credit memo under the reference of the invoice that it would pay, after
another credit memo has paid a part of that invoice. -/
def Samples.clashingRun : Run :=
  { Samples.run with
    documents :=
      { payables :=
          [invoice 1 .sales false 10025 200 100, invoice 2 .sales true (-3050) 0 0,
            invoice 1 .sales true (-1000) 0 0]
        payments := [payment 5 .inbound 6075] } }

theorem Samples.clashingRun_fresh : Samples.clashingRun.documents.Fresh where
  payables := by
    simp only [clashingRun, List.mem_cons, List.not_mem_nil, or_false, forall_eq_or_imp, forall_eq]
    exact ⟨invoice_fresh (by decide +kernel), invoice_fresh (by decide +kernel),
      invoice_fresh (by decide +kernel)⟩
  payments := by
    simp only [clashingRun, List.mem_singleton, forall_eq]
    exact payment_fresh (by decide) (by decide +kernel)

/-- The refused credit memo leaves no trace on either side. -/
theorem Run.build_conserves_clashing :
    Samples.clashingRun.documents.Fresh ∧
      (Samples.clashingRun.build (none : Option MemoryManager)).result =
        .error (.refused (.sameDocument (.invoice (.ofNat 1)))) ∧
      (Samples.clashingRun.build (none : Option MemoryManager)).postings.length = 1 ∧
      (∀ posting ∈ (Samples.clashingRun.build (none : Option MemoryManager)).postings,
        posting.documents.Even) ∧
      (Samples.clashingRun.build (none : Option MemoryManager)).run.documents.Even := by
  have even := build_conserves Samples.clashingRun (none : Option MemoryManager)
    Samples.clashingRun_fresh
  have stopped : (Samples.clashingRun.build (none : Option MemoryManager)).result =
      .error (.refused (.sameDocument (.invoice (.ofNat 1)))) := by decide +kernel
  exact ⟨Samples.clashingRun_fresh, stopped, by decide +kernel, even⟩

end Settlement
