import Settlement.Checks
import Settlement.Proofs.Exact.Builds
import Settlement.Proofs.Exact.Contributions
import Settlement.Proofs.Exact.Totals
import Settlement.Store.Manager

/-!
# Candidates and balances tell the same story

Where no reference stands for two documents, the candidates of a build account for every amount
that it allocates: what has been allocated to a document is the sum over the candidates that
settle it, less what the candidates that are paid with it take.
-/

namespace Settlement

/-- The references of all documents. -/
def Documents.references (documents : Documents) : List Reference :=
  documents.payables.map Payable.reference ++ documents.payments.map Payment.reference

theorem Samples.documents_distinct : documents.references.Nodup := by
  decide +kernel

namespace Candidate

/-- The candidate settles the document with a reference. -/
def Settles (reference : Reference) (candidate : Candidate) : Bool :=
  candidate.payable == reference

/-- The candidate is paid with the document with a reference. -/
def PaidWith (reference : Reference) (candidate : Candidate) : Bool :=
  candidate.payment == some reference

end Candidate

/-- The candidates account for what has been allocated to a payable, part by part. -/
structure Payable.ToldBy (candidates : List Candidate) (payable : Payable) : Prop where
  pay : payable.allocated.pay.amount.value =
    total (·.Settles payable.reference) (·.amounts.pay) candidates -
      total (·.PaidWith payable.reference) (·.amounts.pay) candidates
  discount : payable.allocated.discount.amount.value =
    total (·.Settles payable.reference) (·.amounts.discount) candidates
  writeOff : payable.allocated.writeOff.amount.value =
    total (·.Settles payable.reference) (·.amounts.writeOff) candidates
  /-- The candidates apply what has been allocated, and adding that up does not overflow. -/
  applied : ∃ sum, Candidate.applied candidates payable.reference = .ok sum ∧
    sum.value = payable.allocated.pay.amount.value

/-- The candidates account for what has been allocated to a payment. -/
structure Payment.ToldBy (candidates : List Candidate) (payment : Payment) : Prop where
  allocated : payment.allocated.amount.value =
    total
        (fun candidate => candidate.kind == .invoiceToPayment &&
          candidate.PaidWith payment.reference) (·.amounts.pay) candidates +
      total
        (fun candidate => candidate.kind == .inboundPaymentToOutboundPayment &&
          candidate.Settles payment.reference) (·.amounts.pay) candidates -
      total
        (fun candidate => candidate.kind == .inboundPaymentToOutboundPayment &&
          candidate.PaidWith payment.reference) (·.amounts.pay) candidates

namespace Candidate

variable {candidates : List Candidate} {reference : Reference}

/-! ## Totals in ticks -/

/-- What candidates contribute to a debt together. -/
def toDebt (reference : Reference) (candidates : List Candidate) : Parts :=
  (candidates.map fun candidate => candidate.entry.toDebt reference).sum

/-- What candidates contribute to a fund together. -/
def toFund (reference : Reference) (candidates : List Candidate) : Int :=
  (candidates.map fun candidate => candidate.entry.toFund reference).sum

/-- Candidates contribute to a debt what settles it, less what is paid with it. -/
theorem toDebt_eq (candidates : List Candidate) (reference : Reference) :
    toDebt reference candidates =
      ⟨totalTicks (·.Settles reference) (·.amounts.pay) candidates -
          totalTicks (·.PaidWith reference) (·.amounts.pay) candidates,
        totalTicks (·.Settles reference) (·.amounts.discount) candidates,
        totalTicks (·.Settles reference) (·.amounts.writeOff) candidates⟩ := by
  induction candidates with
  | nil => rfl
  | cons candidate rest ih =>
      rw [toDebt, List.map_cons, List.sum_cons, ← toDebt, ih]
      by_cases settles : candidate.payable = reference <;>
        by_cases paid : candidate.payment = some reference <;>
        simp only [totalTicks_cons, Entry.toDebt, entry, Settles, PaidWith, beq_iff_eq, settles,
          paid, if_true, if_false] <;>
        ext <;> simp <;> omega

/-- Candidates contribute to a fund what is paid with it and what reverses it. -/
theorem toFund_eq (candidates : List Candidate) (reference : Reference) :
    toFund reference candidates =
      totalTicks (fun candidate => candidate.kind == .invoiceToPayment &&
          candidate.PaidWith reference) (·.amounts.pay) candidates +
        totalTicks (fun candidate => candidate.kind == .inboundPaymentToOutboundPayment &&
          candidate.Settles reference) (·.amounts.pay) candidates -
        totalTicks (fun candidate => candidate.kind == .inboundPaymentToOutboundPayment &&
          candidate.PaidWith reference) (·.amounts.pay) candidates := by
  induction candidates with
  | nil => rfl
  | cons candidate rest ih =>
      rw [toFund, List.map_cons, List.sum_cons, ← toFund, ih]
      by_cases settles : candidate.payable = reference <;>
        by_cases paid : candidate.payment = some reference <;>
        cases kind_eq : candidate.kind <;>
        simp [totalTicks_cons, Entry.toFund, entry, Settles, PaidWith, settles, paid, kind_eq] <;>
        omega

/-! ## What candidates apply to a document -/

/-- Adds up decimals from the first to the last. -/
def addUp (sum amount : Decimal) : Except Fault Decimal :=
  match sum.sum? amount with
  | some sum => .ok sum
  | none => .error .sumOverflow

/-- A sum of exact numbers is exact when no part of it from the start on grows too large. -/
theorem addUp_exact {amounts : List Decimal} {start : Decimal} (start_grid : start.OnGrid)
    (grid : ∀ amount ∈ amounts, amount.OnGrid)
    (small : ∀ first, first <+: amounts →
      (start.ticks + (first.map Decimal.ticks).sum).natAbs < coefficientLimit) :
    ∃ sum, amounts.foldlM addUp start = .ok sum ∧ sum.OnGrid ∧
      sum.ticks = start.ticks + (amounts.map Decimal.ticks).sum := by
  induction amounts generalizing start with
  | nil => exact ⟨start, rfl, start_grid, by simp⟩
  | cons amount rest ih =>
      have amount_grid := grid amount (by simp)
      have head_small := small [amount] (by simp)
      obtain ⟨sum, sum_eq, sum_grid, sum_ticks, -⟩ :=
        Decimal.sum?_exact start_grid amount_grid (by simpa using head_small)
      have rest_small : ∀ first, first <+: rest →
          (sum.ticks + (first.map Decimal.ticks).sum).natAbs < coefficientLimit := by
        intro first begins
        have longer := small (amount :: first) (List.cons_prefix_cons.mpr ⟨rfl, begins⟩)
        rw [List.map_cons, List.sum_cons, ← Int.add_assoc, ← sum_ticks] at longer
        exact longer
      obtain ⟨total, total_eq, total_grid, total_ticks⟩ :=
        ih sum_grid (fun other mem => grid other (by simp [mem])) rest_small
      refine ⟨total, ?_, total_grid, ?_⟩
      · rw [List.foldlM_cons, addUp, sum_eq]
        exact total_eq
      · rw [total_ticks, sum_ticks, List.map_cons, List.sum_cons, Int.add_assoc]

theorem onGrid_appliedTo {candidate : Candidate} (exact : candidate.Exact) :
    (candidate.appliedTo reference).OnGrid := by
  unfold appliedTo
  split_ifs
  · exact exact.amounts.pay.grid
  · exact Decimal.onGrid_neg exact.amounts.pay.grid
  · exact Decimal.onGrid_zero

/-- A candidate applies to a document what it contributes to its debt. -/
theorem ticks_appliedTo {candidate : Candidate} (accepted : candidate.entry.refusal? = none) :
    (candidate.appliedTo reference).ticks = (candidate.entry.toDebt reference).pay := by
  have different : candidate.payment ≠ some candidate.payable := by
    intro same
    rw [Entry.refusal?, entry, if_pos same] at accepted
    cases accepted
  unfold appliedTo Entry.toDebt
  by_cases settles : candidate.payable = reference
  · have unpaid : candidate.payment ≠ some reference := settles ▸ different
    simp [entry, settles, unpaid]
    rfl
  · by_cases paid : candidate.payment = some reference
    · simp [entry, settles, paid]
      rfl
    · simp [entry, settles, paid]

/-- What candidates apply to a document is what they contribute to its debt. -/
theorem applied_exact (exact : ∀ candidate ∈ candidates, candidate.Exact)
    (accepted : ∀ candidate ∈ candidates, candidate.entry.refusal? = none)
    (small : ∀ first, first <+: candidates →
      (toDebt reference first).pay.natAbs < coefficientLimit) :
    ∃ sum, applied candidates reference = .ok sum ∧ sum.OnGrid ∧
      sum.ticks = (toDebt reference candidates).pay := by
  have ticks_eq : ∀ some : List Candidate, some ⊆ candidates →
      ((some.map (appliedTo reference)).map Decimal.ticks).sum = (toDebt reference some).pay := by
    intro some within
    rw [toDebt, Parts.pay_sum, List.map_map, List.map_map]
    congr 1
    exact List.map_congr_left fun candidate mem =>
      ticks_appliedTo (accepted candidate (within mem))
  have grid : ∀ amount ∈ candidates.map (appliedTo reference), amount.OnGrid := by
    intro amount mem
    obtain ⟨candidate, candidate_mem, rfl⟩ := List.mem_map.mp mem
    exact onGrid_appliedTo (exact candidate candidate_mem)
  have small_sums : ∀ first, first <+: candidates.map (appliedTo reference) →
      (Decimal.zero.ticks + (first.map Decimal.ticks).sum).natAbs < coefficientLimit := by
    intro first begins
    obtain ⟨some, some_begins, rfl⟩ := List.prefix_map_iff.mp begins
    rw [ticks_eq some some_begins.subset, Decimal.ticks_zero, Int.zero_add]
    exact small some some_begins
  obtain ⟨sum, sum_eq, sum_grid, sum_ticks⟩ := addUp_exact Decimal.onGrid_zero grid small_sums
  refine ⟨sum, sum_eq, sum_grid, ?_⟩
  rw [sum_ticks, ticks_eq candidates (List.Subset.refl _), Decimal.ticks_zero, Int.zero_add]

end Candidate

/-! ## Builds -/

theorem Run.references_book (documents : Documents) :
    documents.book.references = documents.references := by
  rw [Book.references, Documents.references, Documents.book, List.map_map, List.map_map]
  rfl

theorem Documents.distinct_book {documents : Documents}
    (distinct : documents.references.Nodup) : documents.book.Distinct := by
  rwa [Book.Distinct, Run.references_book]

namespace Run

variable {τ : Type} [TransactionManager τ] {run : Run}

theorem candidates_toDebt (progress : Progress) (reference : Reference) :
    (progress.history.deals.map fun deal => deal.entry.toDebt reference).sum =
      Candidate.toDebt reference progress.candidates := by
  rw [Candidate.toDebt, Progress.history, Progress.candidates, List.map_map, List.map_map]
  rfl

theorem candidates_toFund (progress : Progress) (reference : Reference) :
    (progress.history.deals.map fun deal => deal.entry.toFund reference).sum =
      Candidate.toFund reference progress.candidates := by
  rw [Candidate.toFund, Progress.history, Progress.candidates, List.map_map, List.map_map]
  rfl

theorem exact_of_mem_candidates (fresh : run.documents.Fresh) :
    ∀ candidate ∈ run.progress.candidates, candidate.Exact := by
  intro candidate mem
  obtain ⟨posting, posting_mem, rfl⟩ := List.mem_map.mp mem
  exact ((progress_exact fresh).postings posting posting_mem).candidate

theorem accepted_of_mem_candidates (fresh : run.documents.Fresh) :
    ∀ candidate ∈ run.progress.candidates, candidate.entry.refusal? = none := by
  intro candidate mem
  obtain ⟨posting, posting_mem, rfl⟩ := List.mem_map.mp mem
  exact (progress_trail fresh).accepted posting.deal (List.mem_map_of_mem posting_mem)

/-- What a build allocates to a payable is what its candidates contribute to the debt. -/
theorem allocated_of_mem_payables (fresh : run.documents.Fresh)
    (distinct : run.documents.references.Nodup) {payable : Payable}
    (mem : payable ∈ run.progress.documents.payables) :
    payable.allocated.parts = Candidate.toDebt payable.reference run.progress.candidates ∧
      ∀ first, first <+: run.progress.candidates →
        (Candidate.toDebt payable.reference first).pay.natAbs < coefficientLimit := by
  have trail := progress_trail fresh
  have sound := fresh.sound run.settings.leftover
  obtain ⟨place, -, debt_eq⟩ := Documents.place_of_mem_payables mem
  have debt_eq : run.progress.history.book.debts[place]? = some payable.debt := debt_eq
  obtain ⟨debt, start_eq, -⟩ := forall₂_getElem?_right (trail.later sound).debts debt_eq
  obtain ⟨given, given_eq, rfl⟩ := Documents.debt_eq_some_iff.mp start_eq
  have untouched := (fresh.payables given (List.mem_of_getElem? given_eq)).debt_allocated
  have distinct_book := Documents.distinct_book distinct
  obtain ⟨found, found_eq, reference_eq, allocated_eq⟩ := trail.toDebt sound distinct_book start_eq
  obtain rfl := Option.some.inj (debt_eq.symm.trans found_eq)
  have reference_eq : given.debt.reference = payable.reference := reference_eq.symm
  rw [untouched, zero_add, candidates_toDebt, reference_eq] at allocated_eq
  refine ⟨allocated_eq, fun first begins => ?_⟩
  obtain ⟨postings, postings_begin, rfl⟩ := List.prefix_map_iff.mp begins
  have small := trail.toDebt_small sound distinct_book start_eq (postings_begin.map Posting.deal)
  rw [untouched, zero_add, reference_eq, List.map_map] at small
  rw [Candidate.toDebt, List.map_map]
  exact small

/-- What a build allocates to a payment is what its candidates contribute to the fund. -/
theorem allocated_of_mem_payments (fresh : run.documents.Fresh)
    (distinct : run.documents.references.Nodup) {payment : Payment}
    (mem : payment ∈ run.progress.documents.payments) :
    payment.allocated.ticks = Candidate.toFund payment.reference run.progress.candidates := by
  have trail := progress_trail fresh
  have sound := fresh.sound run.settings.leftover
  obtain ⟨place, -, fund_eq⟩ := Documents.place_of_mem_payments mem
  have fund_eq : run.progress.history.book.funds[place]? = some payment.fund := fund_eq
  obtain ⟨fund, start_eq, -⟩ := forall₂_getElem?_right (trail.later sound).funds fund_eq
  obtain ⟨given, given_eq, rfl⟩ := Documents.fund_eq_some_iff.mp start_eq
  have untouched := (fresh.payments given (List.mem_of_getElem? given_eq)).fund_allocated
  have distinct_book := Documents.distinct_book distinct
  obtain ⟨found, found_eq, reference_eq, allocated_eq⟩ := trail.toFund sound distinct_book start_eq
  obtain rfl := Option.some.inj (fund_eq.symm.trans found_eq)
  have reference_eq : given.fund.reference = payment.reference := reference_eq.symm
  rw [untouched, zero_add, candidates_toFund, reference_eq] at allocated_eq
  exact allocated_eq

theorem payable_toldBy (fresh : run.documents.Fresh)
    (distinct : run.documents.references.Nodup) {payable : Payable}
    (mem : payable ∈ run.progress.documents.payables) :
    payable.ToldBy run.progress.candidates := by
  have exact := exact_of_mem_candidates fresh
  have allocated_exact := ((progress_exact fresh).documents.payables payable mem).allocated
  obtain ⟨allocated_eq, small⟩ := allocated_of_mem_payables fresh distinct mem
  obtain ⟨sum, sum_eq, sum_grid, sum_ticks⟩ :=
    Candidate.applied_exact exact (accepted_of_mem_candidates fresh) small
  have parts_eq := allocated_eq.trans (Candidate.toDebt_eq _ _)
  have grid := fun candidate mem => (exact candidate mem).amounts.pay.grid
  refine ⟨?_, ?_, ?_, sum, sum_eq, ?_⟩
  · rw [allocated_exact.pay.value_eq, ← Amounts.pay_parts, parts_eq,
      total_eq _ grid, total_eq _ grid, ← sub_div]
    push_cast
    rfl
  · rw [allocated_exact.discount.value_eq, ← Amounts.discount_parts, parts_eq,
      total_eq _ fun candidate mem => (exact candidate mem).amounts.discount.grid]
  · rw [allocated_exact.writeOff.value_eq, ← Amounts.writeOff_parts, parts_eq,
      total_eq _ fun candidate mem => (exact candidate mem).amounts.writeOff.grid]
  · rw [Decimal.value_eq_ticks sum_grid, sum_ticks, ← allocated_eq,
      allocated_exact.pay.value_eq, Amounts.pay_parts]

theorem payment_toldBy (fresh : run.documents.Fresh)
    (distinct : run.documents.references.Nodup) {payment : Payment}
    (mem : payment ∈ run.progress.documents.payments) :
    payment.ToldBy run.progress.candidates := by
  have exact := exact_of_mem_candidates fresh
  have allocated_exact := ((progress_exact fresh).documents.payments payment mem).allocated
  have allocated_eq := (allocated_of_mem_payments fresh distinct mem).trans
    (Candidate.toFund_eq _ _)
  have grid := fun candidate mem => (exact candidate mem).amounts.pay.grid
  refine ⟨?_⟩
  rw [allocated_exact.value_eq, allocated_eq, total_eq _ grid,
    total_eq _ grid, total_eq _ grid, ← add_div, ← sub_div]
  push_cast
  rfl

/-- The candidates of a build account for all of its allocations: part by part for every payable,
and for every payment, whatever the build returns.  Its documents are those it was given. -/
theorem build_reconciles (run : Run) (manager : Option τ) (fresh : run.documents.Fresh)
    (distinct : run.documents.references.Nodup) :
    (run.build manager).run.documents.references = run.documents.references ∧
      (∀ payable ∈ (run.build manager).run.documents.payables,
        payable.ToldBy ((run.build manager).postings.map Posting.candidate)) ∧
      (∀ payment ∈ (run.build manager).run.documents.payments,
        payment.ToldBy ((run.build manager).postings.map Posting.candidate)) ∧
      ∀ result, (run.build manager).result = .ok result →
        result.candidates = (run.build manager).postings.map Posting.candidate := by
  have later := (progress_trail fresh).later (fresh.sound _)
  have references_eq : run.progress.documents.references = run.documents.references := by
    rw [← references_book, ← references_book]
    exact later.references_eq
  refine ⟨?_, ?_, ?_, fun result returned => (returns_of_result returned).candidates_eq⟩
  · rw [run_build]
    exact references_eq
  · rw [run_build, postings_build]
    exact fun payable mem => payable_toldBy fresh distinct mem
  · rw [run_build, postings_build]
    exact fun payment mem => payment_toldBy fresh distinct mem

/-- The five candidates that a run over the samples returns account for its allocations. -/
theorem build_reconciles_samples :
    Samples.documents.Fresh ∧ Samples.run.documents.references.Nodup ∧
      ∃ result, (Samples.run.build (some ({} : MemoryManager))).result = .ok result ∧
        result.candidates.map Candidate.kind =
          [.invoiceToCreditMemo, .salesInvoiceToPurchaseInvoice, .invoiceToPayment,
            .inboundPaymentToOutboundPayment, .invoiceDiscountOrWriteOff] ∧
        (∀ payable ∈ (Samples.run.build (some ({} : MemoryManager))).run.documents.payables,
          payable.ToldBy result.candidates) ∧
        ∀ payment ∈ (Samples.run.build (some ({} : MemoryManager))).run.documents.payments,
          payment.ToldBy result.candidates := by
  obtain ⟨result, returned⟩ :
      ∃ result, (Samples.run.build (some ({} : MemoryManager))).result = .ok result :=
    exists_eq_ok (by decide +kernel)
  obtain ⟨-, payables, payments, candidates⟩ :=
    build_reconciles Samples.run (some ({} : MemoryManager)) Samples.documents_fresh
      Samples.documents_distinct
  have candidates_eq := candidates result returned
  refine ⟨Samples.documents_fresh, Samples.documents_distinct, result, returned, ?_, ?_, ?_⟩
  · rw [candidates_eq, postings_build, List.map_map]
    exact kinds_samples
  · rw [candidates_eq]
    exact payables
  · rw [candidates_eq]
    exact payments

end Run
end Settlement
