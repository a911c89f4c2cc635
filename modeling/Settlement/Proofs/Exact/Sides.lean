import Settlement.Proofs.Exact.Contributions
import Settlement.Proofs.Exact.Builds

/-!
# The sides of an entry

The kind of an entry says in which tables its two documents are kept.  Where every payable is an
invoice, a settlement therefore makes no other entries than an invoice with a payment, two
invoices, two payments, or an invoice alone.
-/

namespace Settlement

/-- The tables that the documents of a candidate are kept in, by its kind. -/
inductive Sided : CandidateKind → Reference → Option Reference → Prop where
  | paid (invoice : InvoiceId) (payment : PaymentId) :
      Sided .invoiceToPayment (.invoice invoice) (some (.payment payment))
  | credited (invoice memo : InvoiceId) :
      Sided .invoiceToCreditMemo (.invoice invoice) (some (.invoice memo))
  | compensated (invoice bill : InvoiceId) :
      Sided .salesInvoiceToPurchaseInvoice (.invoice invoice) (some (.invoice bill))
  | reversed (made received : PaymentId) :
      Sided .inboundPaymentToOutboundPayment (.payment made) (some (.payment received))
  | conceded (invoice : InvoiceId) :
      Sided .invoiceDiscountOrWriteOff (.invoice invoice) none

namespace Book

/-- All debts are kept as invoices and all funds as payments. -/
structure Tabled (book : Book) : Prop where
  debts : ∀ debt ∈ book.debts, ∃ invoice, debt.reference = .invoice invoice
  funds : ∀ fund ∈ book.funds, ∃ payment, fund.reference = .payment payment

variable {policy : LeftoverPolicy} {before book after : Book}

theorem Tabled.debt (tabled : book.Tabled) {index : Nat} {debt : Debt}
    (debt_eq : book.debts[index]? = some debt) : ∃ invoice, debt.reference = .invoice invoice :=
  tabled.debts debt (List.mem_of_getElem? debt_eq)

theorem Tabled.fund (tabled : book.Tabled) {index : Nat} {fund : Fund}
    (fund_eq : book.funds[index]? = some fund) : ∃ payment, fund.reference = .payment payment :=
  tabled.funds fund (List.mem_of_getElem? fund_eq)

theorem Later.tabled (later : Later policy before after) (tabled : before.Tabled) :
    after.Tabled where
  debts found mem := by
    obtain ⟨debt, debt_mem, step⟩ := forall₂_mem_right later.debts mem
    rw [congrArg Debt.Terms.reference step.terms_eq]
    exact tabled.debts debt debt_mem
  funds found mem := by
    obtain ⟨fund, fund_mem, step⟩ := forall₂_mem_right later.funds mem
    rw [congrArg Fund.Terms.reference step.terms_eq]
    exact tabled.funds fund fund_mem

/-- The entry of a well-placed step has its sides in the tables of its kind. -/
theorem Deals.sided (tabled : book.Tabled) {step : Step} {deal : Deal}
    (dealt : Deals policy book step deal) (placed : book.Placed step) :
    Sided deal.entry.kind deal.entry.payable deal.entry.payment := by
  cases dealt with
  | pair debt_eq source_eq debt_open source_open fits =>
      rename_i kind index means debt source
      obtain ⟨invoice, invoice_eq⟩ := tabled.debt debt_eq
      obtain rfl := Serves.kind_eq placed
      cases means with
      | payment other =>
          obtain ⟨fund, fund_eq, rfl⟩ := Option.map_eq_some_iff.mp source_eq
          obtain ⟨payment, payment_eq⟩ := tabled.fund fund_eq
          simp only [pairEntry, Source.reference, invoice_eq, payment_eq]
          exact .paid invoice payment
      | creditMemo other =>
          obtain ⟨memo, memo_eq, rfl⟩ := Option.map_eq_some_iff.mp source_eq
          obtain ⟨credit, credit_eq⟩ := tabled.debt memo_eq
          simp only [pairEntry, Source.reference, invoice_eq, credit_eq]
          exact .credited invoice credit
      | purchaseInvoice other =>
          obtain ⟨bill, bill_eq, rfl⟩ := Option.map_eq_some_iff.mp source_eq
          obtain ⟨purchase, purchase_eq⟩ := tabled.debt bill_eq
          simp only [pairEntry, Source.reference, invoice_eq, purchase_eq]
          exact .compensated invoice purchase
  | leftover debt_eq debt_open moves =>
      obtain ⟨invoice, invoice_eq⟩ := tabled.debt debt_eq
      simp only [concessionEntry, Debt.terms_move, invoice_eq]
      exact .conceded invoice
  | reverse received_eq made_eq received_open made_open currency_eq =>
      obtain ⟨received, received_reference⟩ := tabled.fund received_eq
      obtain ⟨made, made_reference⟩ := tabled.fund made_eq
      simp only [reversalEntry, received_reference, made_reference]
      exact .reversed made received
  | remainder debt_eq carries =>
      obtain ⟨invoice, invoice_eq⟩ := tabled.debt debt_eq
      simp only [concessionEntry, invoice_eq]
      exact .conceded invoice

end Book

/-- Along a trail all entries have their sides in the tables of their kinds. -/
theorem Trail.sided {policy : LeftoverPolicy} {start : Book} {history : History}
    (trail : Trail policy start history) (sound : start.Sound policy) (tabled : start.Tabled) :
    ∀ deal ∈ history.deals, Sided deal.entry.kind deal.entry.payable deal.entry.payment := by
  induction trail with
  | nil => simp
  | snoc trail placed dealt accepted ih =>
      intro other mem
      rcases List.mem_append.mp mem with earlier | last
      · exact ih other earlier
      · obtain rfl := List.mem_singleton.mp last
        exact dealt.sided ((trail.later sound).tabled tabled) placed

/-! ## Builds -/

/-- A fresh payable that is an invoice is kept as one. -/
theorem Payable.Fresh.reference_eq {payable : Payable} (fresh : payable.Fresh)
    (invoice : payable.kind = .invoice) : ∃ id, payable.reference = .invoice id :=
  fresh.untouched.invoice_reference invoice

theorem Documents.Fresh.tabled {documents : Documents} (fresh : documents.Fresh)
    (invoices : ∀ payable ∈ documents.payables, payable.kind = .invoice) :
    documents.book.Tabled where
  debts debt mem := by
    obtain ⟨payable, payable_mem, rfl⟩ := List.mem_map.mp mem
    exact (fresh.payables payable payable_mem).reference_eq (invoices payable payable_mem)
  funds fund mem := by
    obtain ⟨payment, payment_mem, rfl⟩ := List.mem_map.mp mem
    exact ⟨payment.id, rfl⟩

/-- Where every payable is an invoice, the candidates of a build have their sides in the tables
of their kinds. -/
theorem Run.sided_of_mem_candidates {run : Run} (fresh : run.documents.Fresh)
    (invoices : ∀ payable ∈ run.documents.payables, payable.kind = .invoice) :
    ∀ candidate ∈ run.progress.candidates,
      Sided candidate.kind candidate.payable candidate.payment := by
  intro candidate mem
  obtain ⟨posting, posting_mem, rfl⟩ := List.mem_map.mp mem
  exact (progress_trail fresh).sided (fresh.sound _) (fresh.tabled invoices) posting.deal
    (List.mem_map_of_mem posting_mem)

end Settlement
