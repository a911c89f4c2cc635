import Settlement.Proofs.Booking
import Settlement.Proofs.Currencies.Steps
import Settlement.Proofs.Resets

/-!
# Means of payment

A settlement moves balances only, so the documents that it was given say what every pass pairs up.
A credit memo is always an invoice document, and what it settles can be booked.  The bill that
compensates a sales invoice is only asked for its side and for being no credit memo: it may be a
prepay order, and what an order settles cannot be booked.
-/

namespace Settlement

namespace Documents

variable (documents : Documents)

theorem payable_resets {index : Nat} {payable : Payable}
    (payable_eq : documents.payable index = .ok payable) :
    documents.resets[index]? = some payable.reset :=
  documents.getElem?_resets (entry_eq_ok.mp payable_eq)

/-- A place that a pass finds by a property is that of a payable with the property. -/
theorem resets_of_mem_places {property : Payable → Bool} {index : Nat}
    (mem : index ∈ places property documents.payables) :
    ∃ payable, documents.resets[index]? = some payable.reset ∧ property payable = true := by
  obtain ⟨payable, payable_eq, holds⟩ := mem_places.mp mem
  exact ⟨payable, documents.getElem?_resets payable_eq, holds⟩

end Documents

/-! ## What a candidate is paid with -/

/-- What a candidate settles and with what, by its kind, where the payables are `given`. -/
inductive Paid (settings : Settings) (given : List Payable) :
    CandidateKind → Reference → Option Reference → Prop where
  | paid (payable : Reference) (payment : PaymentId) :
      Paid settings given .invoiceToPayment payable (some (.payment payment))
  | credited {invoice memo : Payable} (invoice_mem : invoice ∈ given) (memo_mem : memo ∈ given)
      (plain : invoice.creditMemo = false) (credit : memo.creditMemo = true)
      (fits : (PaymentView.creditMemo memo).fits invoice = true) :
      Paid settings given .invoiceToCreditMemo invoice.reference (some memo.reference)
  | compensated {sale bill : Payable} (sale_mem : sale ∈ given) (bill_mem : bill ∈ given)
      (asked : settings.compensation = true) (sale_plain : sale.creditMemo = false)
      (bill_plain : bill.creditMemo = false) (purchase : bill.side = .purchase)
      (fits : (PaymentView.purchaseInvoice bill).fits sale = true) :
      Paid settings given .salesInvoiceToPurchaseInvoice sale.reference (some bill.reference)
  | reversed (made received : PaymentId) :
      Paid settings given .inboundPaymentToOutboundPayment (.payment made)
        (some (.payment received))
  | conceded (payable : Reference) : Paid settings given .invoiceDiscountOrWriteOff payable none

namespace Step

/-- A step that pairs documents finds payables of the right sort at its places. -/
def Suits (settings : Settings) (given : List Payable) : Step → Prop
  | pair kind _ (.payment _) => kind = .invoiceToPayment
  | pair kind index (.creditMemo other) =>
      kind = .invoiceToCreditMemo ∧
        (∃ invoice, given[index]? = some invoice ∧ invoice.creditMemo = false) ∧
        ∃ memo, given[other]? = some memo ∧ memo.creditMemo = true
  -- Nothing asks whether the bill is an invoice.
  | pair kind index (.purchaseInvoice other) =>
      kind = .salesInvoiceToPurchaseInvoice ∧ settings.compensation = true ∧
        (∃ sale, given[index]? = some sale ∧ sale.creditMemo = false) ∧
        ∃ bill, given[other]? = some bill ∧ bill.creditMemo = false ∧ bill.side = .purchase
  | leftover _ | reverse _ _ | remainder _ => True

end Step

theorem Settings.compensation_of_mem_passes {settings : Settings}
    (asked : Pass.compensation ∈ settings.passes) : settings.compensation = true := by
  cases allowed : settings.compensation with
  | true => rfl
  | false => simp [passes, allowed] at asked

theorem Pass.suits_steps {settings : Settings} {pass : Pass} (asked : pass ∈ settings.passes)
    (documents : Documents) :
    ∀ step ∈ pass.steps documents, step.Suits settings documents.resets := by
  intro step mem
  cases pass with
  | creditMemos =>
      obtain ⟨-, index, index_mem, ⟨means, means_mem, rfl⟩ | rfl⟩ := Step.mem_pairAll.mp mem
      · obtain ⟨other, other_mem, rfl⟩ := List.mem_map.mp means_mem
        obtain ⟨invoice, invoice_eq, plain⟩ := documents.resets_of_mem_places index_mem
        obtain ⟨memo, memo_eq, credit⟩ := documents.resets_of_mem_places other_mem
        exact ⟨rfl, ⟨_, invoice_eq, (Bool.not_eq_true' _).mp plain⟩, _, memo_eq, credit⟩
      · trivial
  | compensation =>
      obtain ⟨-, index, index_mem, ⟨means, means_mem, rfl⟩ | rfl⟩ := Step.mem_pairAll.mp mem
      · obtain ⟨other, other_mem, rfl⟩ := List.mem_map.mp means_mem
        obtain ⟨sale, sale_eq, sells⟩ := documents.resets_of_mem_places index_mem
        obtain ⟨bill, bill_eq, bills⟩ := documents.resets_of_mem_places other_mem
        simp only [Bool.and_eq_true, Bool.not_eq_true', TradeSide.isPurchase_iff] at sells bills
        exact ⟨rfl, Settings.compensation_of_mem_passes asked, ⟨_, sale_eq, sells.1⟩, _, bill_eq,
          bills⟩
      · trivial
  | payments =>
      obtain ⟨-, index, -, ⟨means, means_mem, rfl⟩ | rfl⟩ := Step.mem_pairAll.mp mem
      · obtain ⟨other, -, rfl⟩ := List.mem_map.mp means_mem
        rfl
      · trivial
  | reversals =>
      obtain ⟨inbound, -, outbound, -, rfl⟩ := Step.mem_reverseAll.mp mem
      trivial
  | remainders =>
      obtain ⟨index, -, rfl⟩ := List.mem_map.mp mem
      trivial

/-! ## Whole settlements -/

/-- The candidate is paid as its kind says, and recording it moves balances only. -/
structure Proposal.PaidFrom (settings : Settings) (given : List Payable) (proposal : Proposal) :
    Prop where
  paid : Paid settings given proposal.candidate.kind proposal.candidate.payable
    proposal.candidate.payment
  record : ∀ documents : Documents, (proposal.record documents).after.resets = documents.resets

namespace Proposal

variable {settings : Settings} {given : List Payable} {documents : Documents} {proposal : Proposal}

theorem Pairs.paidFrom {kind : CandidateKind} {index : Nat} {means : Means} {payable : Payable}
    {view : PaymentView} (pairs : proposal.Pairs documents kind index means payable view)
    (suits : (Step.pair kind index means).Suits settings documents.resets) :
    proposal.PaidFrom settings documents.resets := by
  have payable_eq := documents.payable_resets pairs.payable_eq
  constructor
  · rw [pairs.kind_eq, pairs.settles, pairs.paid_with]
    cases means with
    | payment other =>
        obtain rfl : kind = .invoiceToPayment := suits
        obtain ⟨payment, -, rfl⟩ := map_eq_ok.mp pairs.view_eq
        exact .paid payable.reference payment.id
    | creditMemo other =>
        obtain ⟨rfl, ⟨invoice, invoice_eq, plain⟩, memo, memo_eq, credit⟩ := suits
        obtain ⟨found, found_eq, rfl⟩ := map_eq_ok.mp pairs.view_eq
        have found_eq := documents.payable_resets found_eq
        obtain rfl := Option.some.inj (payable_eq.symm.trans invoice_eq)
        obtain rfl := Option.some.inj (found_eq.symm.trans memo_eq)
        have credited : Paid settings documents.resets _ payable.reset.reference
            (some found.reset.reference) :=
          .credited (List.mem_of_getElem? payable_eq) (List.mem_of_getElem? found_eq) plain credit
            pairs.fits
        exact credited
    | purchaseInvoice other =>
        obtain ⟨rfl, asked, ⟨sale, sale_eq, sale_plain⟩, bill, bill_eq, bill_plain, purchase⟩ :=
          suits
        obtain ⟨found, found_eq, rfl⟩ := map_eq_ok.mp pairs.view_eq
        have found_eq := documents.payable_resets found_eq
        obtain rfl := Option.some.inj (payable_eq.symm.trans sale_eq)
        obtain rfl := Option.some.inj (found_eq.symm.trans bill_eq)
        have compensated : Paid settings documents.resets _ payable.reset.reference
            (some found.reset.reference) :=
          .compensated (List.mem_of_getElem? payable_eq) (List.mem_of_getElem? found_eq) asked
            sale_plain bill_plain purchase pairs.fits
        exact compensated
  · intro before
    rw [pairs.record_eq]
    exact before.resets_allocate_pay index _ means _

theorem Concedes.paidFrom {index : Nat} {amounts : Amounts} {payable : Payable}
    (concedes : proposal.Concedes documents index amounts payable) :
    proposal.PaidFrom settings given := by
  constructor
  · rw [concedes.kind_eq, concedes.unpaid]
    exact .conceded _
  · intro before
    rw [concedes.record_eq]
    exact before.resets_allocate index amounts

theorem Reverses.paidFrom {inbound outbound : Nat} {received made : Payment}
    (reverses : proposal.Reverses documents inbound outbound received made) :
    proposal.PaidFrom settings given := by
  constructor
  · rw [reverses.kind_eq, reverses.settles, reverses.paid_with]
    exact .reversed made.id received.id
  · intro before
    rw [reverses.record_eq]
    -- Payments are no payables.
    exact Attempt.holds_andThen (fun after : Documents => after.resets = before.resets) rfl
      fun _ same => same

end Proposal

namespace Progress

/-- The payables are the given ones with other balances, and every candidate so far is paid as its
kind says. -/
structure PaidFrom (settings : Settings) (given : List Payable) (progress : Progress) : Prop where
  resets_eq : progress.documents.resets = given
  candidates : ∀ candidate ∈ progress.candidates,
    Paid settings given candidate.kind candidate.payable candidate.payment

variable {settings : Settings} {given : List Payable} {progress : Progress}

theorem PaidFrom.book (paid : progress.PaidFrom settings given) {proposal : Proposal}
    (proposed : proposal.PaidFrom settings given) :
    (progress.book proposal).1.PaidFrom settings given := by
  apply holds_proceed (PaidFrom settings given)
  · exact ⟨(proposed.record progress.documents).trans paid.resets_eq, paid.candidates⟩
  · intro reached reached_paid
    refine ⟨reached_paid.resets_eq, fun candidate mem => ?_⟩
    rw [candidates_post, List.mem_append, List.mem_singleton] at mem
    rcases mem with earlier | rfl
    · exact reached_paid.candidates candidate earlier
    · exact proposed.paid

theorem PaidFrom.settle (paid : progress.PaidFrom settings given)
    {proposed : Except Failure (Option Proposal)}
    (proposals : ∀ proposal, proposed = .ok (some proposal) → proposal.PaidFrom settings given) :
    (progress.settle proposed).1.PaidFrom settings given := by
  match proposed, proposals with
  | .ok (some proposal), proposals => exact paid.book (proposals proposal rfl)
  | .ok none, _ => exact paid
  | .error failure, _ => exact paid

theorem PaidFrom.settleLeftover (paid : progress.PaidFrom settings given)
    (policy : LeftoverPolicy) (index : Nat) :
    (progress.settleLeftover policy index).1.PaidFrom settings given := by
  unfold Progress.settleLeftover
  split
  · exact paid
  rename_i payable payable_eq
  split
  · exact paid
  split
  · exact paid
  rename_i move moves
  apply holds_proceed (PaidFrom settings given)
  · refine ⟨?_, paid.candidates⟩
    rw [← paid.resets_eq]
    refine progress.documents.resets_changePayable fun found found_eq => ?_
    obtain rfl := Option.some.inj ((Documents.entry_eq_ok.mp payable_eq).symm.trans found_eq)
    exact Payable.reset_moved moves
  · intro changed changed_paid
    refine changed_paid.settle fun proposal proposed => ?_
    obtain ⟨conceded, conceded_eq, same⟩ := map_eq_ok.mp proposed
    obtain rfl := Option.some.inj same
    obtain ⟨found, concedes⟩ := Documents.concession_eq_ok conceded_eq
    exact concedes.paidFrom

end Progress

open Progress

section

variable {settings : Settings} {given : List Payable} {progress : Progress}
  (policy : LeftoverPolicy)

theorem Step.paidFrom_run {step : Step} (suits : step.Suits settings given)
    (paid : progress.PaidFrom settings given) :
    (step.run policy progress).1.PaidFrom settings given := by
  cases step with
  | pair kind index means =>
      apply paid.settle
      intro proposal proposed
      obtain ⟨payable, view, pairs⟩ := Documents.pairing_eq_some proposed
      rw [← paid.resets_eq] at suits ⊢
      exact pairs.paidFrom suits
  | leftover index => exact paid.settleLeftover policy index
  | reverse inbound outbound =>
      apply paid.settle
      intro proposal proposed
      obtain ⟨received, made, reverses⟩ := Documents.reversal_eq_some proposed
      exact reverses.paidFrom
  | remainder index =>
      apply paid.settle
      intro proposal proposed
      obtain ⟨payable, concedes⟩ := Documents.remainder_eq_some proposed
      exact concedes.paidFrom

theorem Step.paidFrom_runAll {steps : List Step} (suit : ∀ step ∈ steps, step.Suits settings given)
    (paid : progress.PaidFrom settings given) :
    (runAll policy steps progress).1.PaidFrom settings given := by
  induction steps generalizing progress with
  | nil => exact paid
  | cons step rest ih =>
      have here := paidFrom_run policy (suit step (by simp)) paid
      exact holds_proceed (Progress.PaidFrom settings given) here fun _ after_paid =>
        ih (fun other mem => suit other (by simp [mem])) after_paid

theorem Pass.paidFrom_run {pass : Pass} (asked : pass ∈ settings.passes)
    (paid : progress.PaidFrom settings given) :
    (pass.run policy progress).1.PaidFrom settings given := by
  have suit := suits_steps asked progress.documents
  rw [paid.resets_eq] at suit
  apply holds_proceed (Progress.PaidFrom settings given) (Step.paidFrom_runAll policy suit paid)
  intro after after_paid
  split
  · exact ⟨after_paid.resets_eq, after_paid.candidates⟩
  · exact after_paid

theorem Pass.paidFrom_runAll {passes : List Pass} (asked : ∀ pass ∈ passes, pass ∈ settings.passes)
    (paid : progress.PaidFrom settings given) :
    (runAll policy passes progress).1.PaidFrom settings given := by
  induction passes generalizing progress with
  | nil => exact paid
  | cons pass rest ih =>
      have here := paidFrom_run policy (asked pass (by simp)) paid
      exact holds_proceed (Progress.PaidFrom settings given) here fun _ after_paid =>
        ih (fun other mem => asked other (by simp [mem])) after_paid

end

/-- Every candidate of a settlement is paid as its kind says, however far the settlement comes. -/
theorem Documents.paidFrom_settle (settings : Settings) (documents : Documents) :
    (documents.settle settings).1.PaidFrom settings documents.resets := by
  have start : Progress.PaidFrom settings documents.resets { documents } :=
    ⟨rfl, by simp [candidates]⟩
  unfold settle
  cases documents.check settings with
  | error error => exact start
  | ok passed => exact Pass.paidFrom_runAll _ (fun _ mem => mem) start

/-! ## Builds -/

/-- The candidate settles an invoice with a credit memo, an invoice document of its own side. -/
structure Candidate.Credits (candidate : Candidate) (invoice memo : Payable) : Prop where
  payable_eq : candidate.payable = invoice.reference
  payment_eq : candidate.payment = some memo.reference
  invoice_kind : invoice.kind = .invoice
  memo_kind : memo.kind = .invoice
  invoice_plain : invoice.creditMemo = false
  memo_credit : memo.creditMemo = true
  side_eq : invoice.side = memo.side
  currency_eq : invoice.currency = memo.currency

/-- The candidate settles a sales invoice with a bill, a document of the purchase side that is no
credit memo but may be an order. -/
structure Candidate.Compensates (candidate : Candidate) (sale bill : Payable) : Prop where
  payable_eq : candidate.payable = sale.reference
  payment_eq : candidate.payment = some bill.reference
  sale_kind : sale.kind = .invoice
  sale_plain : sale.creditMemo = false
  bill_plain : bill.creditMemo = false
  sale_side : sale.side = .sales
  bill_side : bill.side = .purchase
  currency_eq : sale.currency = bill.currency

/-- What the candidates of a build are paid with. -/
structure Build.PaysWith {τ : Type} (before : Run) (build : Build τ) : Prop where
  /-- A result tells the candidates that were posted. -/
  told : ∀ result, build.result = .ok result →
    result.candidates = build.postings.map Posting.candidate
  /-- An invoice is settled with a credit memo, and that can be booked. -/
  credited : ∀ candidate ∈ build.postings.map Posting.candidate,
    candidate.kind = .invoiceToCreditMemo →
      ∃ invoice ∈ before.documents.payables, ∃ memo ∈ before.documents.payables,
        candidate.Credits invoice memo ∧ ∃ lines, Header.linesFor candidate = .ok lines
  /-- A sales invoice is settled with a bill, and that can be booked unless the bill is an order. -/
  compensated : ∀ candidate ∈ build.postings.map Posting.candidate,
    candidate.kind = .salesInvoiceToPurchaseInvoice →
      ∃ sale ∈ before.documents.payables, ∃ bill ∈ before.documents.payables,
        candidate.Compensates sale bill ∧
          ((∃ lines, Header.linesFor candidate = .ok lines) ↔ bill.kind = .invoice)
  /-- An order only pays as the bill that compensates a sales invoice. -/
  ordered : ∀ candidate ∈ build.postings.map Posting.candidate, ∀ order,
    candidate.payment = some (.order order) →
      candidate.kind = .salesInvoiceToPurchaseInvoice ∧ before.settings.compensation = true ∧
        ∃ bill ∈ before.documents.payables, bill.reference = .order order ∧
          bill.kind = .prepayOrder ∧ bill.side = .purchase
  /-- No build that books its candidates has paid with an order. -/
  booked : ∀ result, build.result = .ok result → before.dryRun = false →
    ∀ candidate ∈ result.candidates, ∀ order, candidate.payment ≠ some (.order order)

/-- No header can be drawn up for a candidate that is paid with an order. -/
theorem Header.linesFor_ne_ok {candidate : Candidate} {order : OrderId}
    (payment_eq : candidate.payment = some (.order order)) (lines : List HeaderLine) :
    linesFor candidate ≠ .ok lines := by
  unfold linesFor
  rw [payment_eq]
  cases candidate.payable <;> exact nofun

/-- Two invoices can be booked against each other. -/
theorem Header.linesFor_invoices {candidate : Candidate} {invoice counter : InvoiceId}
    (payable_eq : candidate.payable = .invoice invoice)
    (payment_eq : candidate.payment = some (.invoice counter)) :
    ∃ lines, linesFor candidate = .ok lines := by
  unfold linesFor
  rw [payable_eq, payment_eq]
  exact ⟨_, rfl⟩

namespace Run

variable {τ : Type} [TransactionManager τ] {run : Run}

/-- Whatever is booked has lines. -/
theorem linesFor_of_bookUnlessDry {candidates : List Candidate} {manager after : Option τ}
    {allocations : List AllocationId} (wet : run.dryRun = false)
    (booked : run.bookUnlessDry candidates manager = (.ok allocations, after)) :
    ∀ candidate ∈ candidates, ∃ lines, Header.linesFor candidate = .ok lines := by
  intro candidate mem
  have some_candidates : candidates.isEmpty = false :=
    List.isEmpty_eq_false_iff.mpr (List.ne_nil_of_mem mem)
  unfold bookUnlessDry book at booked
  rw [some_candidates, wet, Bool.or_self, if_neg Bool.false_ne_true] at booked
  cases headers_eq : run.headers candidates with
  | error error =>
      rw [headers_eq] at booked
      cases booked
  | ok headers =>
      obtain ⟨header, -, transactionDate, accountingDate, made⟩ :=
        forall₂_mem_right (madeFor_of_headers headers_eq).flip mem
      obtain ⟨lines, lines_eq, -⟩ := Header.ofCandidate_eq_ok.mp made
      exact ⟨lines, lines_eq⟩

variable (untouched : ∀ payable ∈ run.documents.payables, payable.Untouched)

include untouched

/-- Every candidate of a build is paid as its kind says. -/
theorem paid_of_mem_postings (manager : Option τ) :
    ∀ candidate ∈ (run.build manager).postings.map Posting.candidate,
      Paid run.settings run.documents.payables candidate.kind candidate.payable
        candidate.payment := by
  rw [postings_build]
  cases built : run.built with
  | true =>
      rw [progress_of_built built]
      simp
  | false =>
      have resets_eq : run.documents.resets = run.documents.payables :=
        (List.map_congr_left fun payable mem => (untouched payable mem).reset_eq).trans
          (List.map_id _)
      rw [progress_of_unbuilt built, ← resets_eq]
      exact (run.documents.paidFrom_settle run.settings).candidates

variable {candidate : Candidate}
  (paid : Paid run.settings run.documents.payables candidate.kind candidate.payable
    candidate.payment)

include paid

/-- A candidate of the first pass settles an invoice with a credit memo, and can be booked. -/
theorem credits_of_paid (kind_eq : candidate.kind = .invoiceToCreditMemo) :
    ∃ invoice ∈ run.documents.payables, ∃ memo ∈ run.documents.payables,
      candidate.Credits invoice memo ∧ ∃ lines, Header.linesFor candidate = .ok lines := by
  rw [kind_eq] at paid
  generalize payable_eq : candidate.payable = settled, payment_eq : candidate.payment = means
    at paid
  cases paid with
  | credited invoice_mem memo_mem plain credit fits =>
      rename_i invoice memo
      simp only [PaymentView.fits, PaymentView.canPay, Bool.and_eq_true, beq_iff_eq] at fits
      obtain ⟨⟨⟨invoice_kind, side_eq⟩, currency_eq⟩, -⟩ := fits
      have memo_kind := (untouched memo memo_mem).kind_of_creditMemo credit
      obtain ⟨id, id_eq⟩ := (untouched invoice invoice_mem).invoice_reference invoice_kind
      obtain ⟨counter, counter_eq⟩ := (untouched memo memo_mem).invoice_reference memo_kind
      have credits : candidate.Credits invoice memo :=
        { payable_eq, payment_eq, invoice_kind, memo_kind, side_eq, currency_eq
          invoice_plain := plain
          memo_credit := credit }
      exact ⟨invoice, invoice_mem, memo, memo_mem, credits, Header.linesFor_invoices
        (payable_eq.trans id_eq) (payment_eq.trans (congrArg some counter_eq))⟩

/-- A candidate of the second pass settles a sales invoice with a bill, and can be booked unless
the bill is an order. -/
theorem compensates_of_paid (kind_eq : candidate.kind = .salesInvoiceToPurchaseInvoice) :
    ∃ sale ∈ run.documents.payables, ∃ bill ∈ run.documents.payables,
      candidate.Compensates sale bill ∧
        ((∃ lines, Header.linesFor candidate = .ok lines) ↔ bill.kind = .invoice) := by
  rw [kind_eq] at paid
  generalize payable_eq : candidate.payable = settled, payment_eq : candidate.payment = means
    at paid
  cases paid with
  | compensated sale_mem bill_mem asked sale_plain bill_plain purchase fits =>
      rename_i sale bill
      simp only [PaymentView.fits, PaymentView.canPay, Bool.and_eq_true, beq_iff_eq,
        TradeSide.isSales_iff] at fits
      obtain ⟨⟨⟨sale_kind, sale_side⟩, currency_eq⟩, -⟩ := fits
      have compensates : candidate.Compensates sale bill :=
        { payable_eq, payment_eq, sale_kind, sale_plain, bill_plain, sale_side, currency_eq
          bill_side := purchase }
      refine ⟨sale, sale_mem, bill, bill_mem, compensates, ?_⟩
      obtain ⟨id, id_eq⟩ := (untouched sale sale_mem).invoice_reference sale_kind
      rcases (untouched bill bill_mem).table_cases with
        ⟨bill_kind, counter, counter_eq⟩ | ⟨bill_kind, -, order, order_eq⟩
      · rw [counter_eq] at payment_eq
        exact iff_of_true (Header.linesFor_invoices (payable_eq.trans id_eq) payment_eq) bill_kind
      · rw [order_eq] at payment_eq
        refine iff_of_false ?_ (by simp [bill_kind])
        rintro ⟨lines, made⟩
        exact Header.linesFor_ne_ok payment_eq lines made

/-- Only a candidate of the second pass is paid with an order. -/
theorem order_of_paid {order : OrderId} (payment_eq : candidate.payment = some (.order order)) :
    candidate.kind = .salesInvoiceToPurchaseInvoice ∧ run.settings.compensation = true ∧
      ∃ bill ∈ run.documents.payables, bill.reference = .order order ∧
        bill.kind = .prepayOrder ∧ bill.side = .purchase := by
  have order_kind : ∀ payable ∈ run.documents.payables, payable.reference = .order order →
      payable.kind = .prepayOrder ∧ payable.creditMemo = false := by
    intro payable mem reference_eq
    rcases (untouched payable mem).table_cases with
      ⟨-, invoice, kept⟩ | ⟨kind_eq, plain, -⟩
    · cases reference_eq.symm.trans kept
    · exact ⟨kind_eq, plain⟩
  rw [payment_eq] at paid
  generalize kind_eq : candidate.kind = kind, payable_eq : candidate.payable = settled,
    means_eq : some (Reference.order order) = means at paid
  cases paid with
  | paid payable payment => cases means_eq
  | credited invoice_mem memo_mem plain credit fits =>
      have memo_plain := (order_kind _ memo_mem (Option.some.inj means_eq).symm).2
      cases memo_plain.symm.trans credit
  | compensated sale_mem bill_mem asked sale_plain bill_plain purchase fits =>
      have reference_eq := (Option.some.inj means_eq).symm
      have bill_kind := (order_kind _ bill_mem reference_eq).1
      exact ⟨rfl, asked, _, bill_mem, reference_eq, bill_kind, purchase⟩
  | reversed made received => cases means_eq
  | conceded payable => cases means_eq

end Run

/-- What the candidates of a build are paid with: an invoice with a credit memo, which can always be
booked, or a sales invoice with a bill, which can be booked unless the bill is an order. -/
theorem Run.build_means_of_payment {τ : Type} [TransactionManager τ] (run : Run)
    (manager : Option τ)
    (drafted : ∀ payable ∈ run.documents.payables,
      ∃ draft : Payable.Draft, draft.complete = .ok payable) :
    (run.build manager).PaysWith run := by
  have untouched : ∀ payable ∈ run.documents.payables, payable.Untouched := by
    intro payable mem
    obtain ⟨draft, completed⟩ := drafted payable mem
    exact Payable.Draft.untouched completed
  have paid := paid_of_mem_postings untouched manager
  constructor
  · exact fun result returned => (returns_of_result returned).candidates_eq
  · exact fun candidate mem => credits_of_paid untouched (paid candidate mem)
  · exact fun candidate mem => compensates_of_paid untouched (paid candidate mem)
  · exact fun candidate mem order => order_of_paid untouched (paid candidate mem)
  · intro result returned wet candidate mem order payment_eq
    have returns := returns_of_result returned
    have still_wet : (run.build manager).run.dryRun = false := by
      rw [run_build]
      exact wet
    obtain ⟨lines, made⟩ := linesFor_of_bookUnlessDry still_wet returns.booked candidate mem
    exact Header.linesFor_ne_ok payment_eq lines made

/-! ## Samples -/

namespace Samples

/-- The draft of a prepay order in US dollars, with a signed amount in cents. -/
def orderDraft (record : Nat) (side : TradeSide) (pay : Int64) : Payable.Draft :=
  { invoiceDraft record side false pay 0 0 with
    kind := .prepayOrder
    reference := some (.order (.ofNat record)) }

/-- The prepay order of such a draft. -/
def order (record : Nat) (side : TradeSide) (pay : Int64) : Payable :=
  { invoice record side false pay 0 0 with
    kind := .prepayOrder
    reference := .order (.ofNat record) }

theorem complete_orderDraft (record : Nat) (side : TradeSide) (pay : Int64) :
    (orderDraft record side pay).complete = .ok (order record side pay) := rfl

/-- A run over a sales invoice and a prepay order of a vendor. -/
def prepaid : Run :=
  { run with
    documents := { payables := [invoice 1 .sales false 10000 0 0, order 2 .purchase (-4000)] } }

theorem prepaid_drafted : ∀ payable ∈ prepaid.documents.payables,
    ∃ draft : Payable.Draft, draft.complete = .ok payable := by
  simp only [prepaid, List.mem_cons, List.not_mem_nil, or_false, forall_eq_or_imp, forall_eq]
  exact ⟨⟨_, complete_invoiceDraft _ _ _ _ _ _⟩, _, complete_orderDraft _ _ _⟩

end Samples

/-- A dry run proposes to pay the sales invoice with the order; a run that books is refused for just
that pair. -/
theorem Run.build_order_pays :
    (∀ payable ∈ Samples.prepaid.documents.payables,
      ∃ draft : Payable.Draft, draft.complete = .ok payable) ∧
      (∃ result,
        ({ Samples.prepaid with dryRun := true }.build (none : Option MemoryManager)).result =
          .ok result ∧
        ∃ candidate ∈ result.candidates, candidate.kind = .salesInvoiceToPurchaseInvoice ∧
          candidate.payment = some (.order (.ofNat 2))) ∧
      (Samples.prepaid.build (some ({} : MemoryManager))).result =
        .error (.refused
          (.unsupportedPair (.invoice (.ofNat 1)) (some (.order (.ofNat 2))))) := by
  have ended : (Samples.prepaid.documents.settle Samples.prepaid.settings).2 = none := by
    decide +kernel
  have returned :
      ({ Samples.prepaid with dryRun := true }.build (none : Option MemoryManager)).result =
        .ok _ := result_of_dry rfl rfl ended
  exact ⟨Samples.prepaid_drafted, ⟨_, returned, by decide +kernel⟩, by decide +kernel⟩

/-- A run over the samples settles an invoice with a credit memo and one with a bill. -/
theorem Run.build_means_of_payment_samples :
    (∀ payable ∈ Samples.run.documents.payables,
      ∃ draft : Payable.Draft, draft.complete = .ok payable) ∧
      ((Samples.run.build (none : Option MemoryManager)).postings.map fun posting =>
        posting.candidate.kind) = [.invoiceToCreditMemo, .salesInvoiceToPurchaseInvoice,
          .invoiceToPayment, .inboundPaymentToOutboundPayment, .invoiceDiscountOrWriteOff] ∧
      (Samples.run.build (none : Option MemoryManager)).PaysWith Samples.run := by
  have drafted : ∀ payable ∈ Samples.run.documents.payables,
      ∃ draft : Payable.Draft, draft.complete = .ok payable :=
    fun payable mem => (Samples.documents_fresh.payables payable mem).drafted
  refine ⟨drafted, ?_, build_means_of_payment Samples.run none drafted⟩
  rw [postings_build]
  exact kinds_samples

end Settlement
