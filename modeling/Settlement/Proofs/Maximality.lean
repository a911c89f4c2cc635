import Settlement.Proofs.Exact.Builds
import Settlement.Proofs.Exact.Exhaustion
import Settlement.Proofs.Recording
import Settlement.Store.Manager

/-!
# A settlement leaves nothing to settle

A build that comes to its end has used up one side of every two documents that could settle each
other, and every discount and write-off.  A second build over the documents that it leaves
therefore finds nothing to do.
-/

namespace Settlement

/-- Nothing is left that documents could settle with each other under the settings, and no
discount or write-off. -/
structure Documents.Exhausted (settings : Settings) (documents : Documents) : Prop where
  credited : ∀ payable ∈ documents.payables, ∀ memo ∈ documents.payables,
    payable.creditMemo = false → memo.creditMemo = true →
      (PaymentView.creditMemo memo).fits payable = true →
        payable.isFullyAllocated = true ∨ memo.isFullyAllocated = true
  compensated : settings.compensation = true →
    ∀ sale ∈ documents.payables, ∀ bill ∈ documents.payables,
      sale.creditMemo = false → sale.side = .sales → bill.creditMemo = false →
        bill.side = .purchase → (PaymentView.purchaseInvoice bill).fits sale = true →
          sale.isFullyAllocated = true ∨ bill.isFullyAllocated = true
  paid : ∀ payable ∈ documents.payables, ∀ payment ∈ documents.payments,
    (PaymentView.payment payment).fits payable = true →
      payable.isFullyAllocated = true ∨ payment.isFullyAllocated = true
  reversed : ∀ received ∈ documents.payments, ∀ made ∈ documents.payments,
    received.direction = .inbound → made.direction = .outbound →
      made.currency = received.currency →
        received.isFullyAllocated = true ∨ made.isFullyAllocated = true
  extras : ∀ payable ∈ documents.payables,
    payable.remaining.discount.isZero = true ∧ payable.remaining.writeOff.isZero = true

namespace Documents

variable {documents : Documents} {policy : LeftoverPolicy} {settings : Settings}

/-- Where a pairing is settled, one of its sides is used up. -/
theorem full_of_settled_pair {kind : CandidateKind} {index : Nat} {means : Means}
    {payable : Payable} {view : PaymentView}
    (settled : documents.book.Settled policy (.pair kind index means))
    (debt_eq : documents.book.debts[index]? = some payable.debt)
    (view_exact : view.Exact) (source_eq : documents.book.source? means = some view.source)
    (fits : view.fits payable = true) :
    payable.isFullyAllocated = true ∨ view.isFullyAllocated = true := by
  have closed := (Book.settled_pair_iff debt_eq source_eq).mp settled
  rw [payable.isFullyAllocated_iff, view.isFullyAllocated_iff]
  by_contra both_open
  rw [not_or, not_not, not_not] at both_open
  exact closed ⟨both_open.1, both_open.2, (PaymentView.fits_iff view_exact).mp fits⟩

/-- Documents whose passes find nothing to deal are exhausted. -/
theorem exhausted_of_settled (exact : documents.Exact)
    (inbound_sign : ∀ payment ∈ documents.payments, payment.direction = .inbound →
      0 ≤ payment.fund.remaining)
    (outbound_sign : ∀ payment ∈ documents.payments, payment.direction = .outbound →
      payment.fund.remaining ≤ 0)
    (settled : ∀ pass ∈ settings.passes, ∀ step ∈ documents.book.steps pass,
      documents.book.Settled settings.leftover step) : documents.Exhausted settings where
  credited payable payable_mem memo memo_mem plain credit fits := by
    obtain ⟨index, -, debt_eq⟩ := place_of_mem_payables payable_mem
    obtain ⟨other, memo_eq, other_eq⟩ := place_of_mem_payables memo_mem
    have index_mem : index ∈ places (fun debt => !debt.creditMemo) documents.book.debts :=
      mem_places.mpr ⟨_, debt_eq, congrArg (!·) plain⟩
    have other_mem : other ∈ places (fun debt => debt.creditMemo) documents.book.debts :=
      mem_places.mpr ⟨_, other_eq, credit⟩
    have step_settled := settled .creditMemos (by simp [Settings.passes]) _
      (Step.pair_mem_pairAll index_mem (List.mem_map_of_mem other_mem))
    have view_exact : (PaymentView.creditMemo memo).Exact := exact.payable_exact memo_eq
    exact full_of_settled_pair step_settled debt_eq view_exact
      (congrArg (Option.map Source.creditMemo) other_eq) fits
  compensated compensates sale sale_mem bill bill_mem plain sales bill_plain purchase fits := by
    obtain ⟨index, -, debt_eq⟩ := place_of_mem_payables sale_mem
    obtain ⟨other, bill_eq, other_eq⟩ := place_of_mem_payables bill_mem
    have index_mem : index ∈
        places (fun debt => !debt.creditMemo && debt.side.isSales) documents.book.debts :=
      mem_places.mpr ⟨_, debt_eq, by simp [Payable.debt, plain, sales, TradeSide.isSales]⟩
    have other_mem : other ∈
        places (fun debt => !debt.creditMemo && debt.side.isPurchase) documents.book.debts :=
      mem_places.mpr
        ⟨_, other_eq, by simp [Payable.debt, bill_plain, purchase, TradeSide.isPurchase]⟩
    have step_settled := settled .compensation (by simp [Settings.passes, compensates]) _
      (Step.pair_mem_pairAll index_mem (List.mem_map_of_mem other_mem))
    have view_exact : (PaymentView.purchaseInvoice bill).Exact := exact.payable_exact bill_eq
    exact full_of_settled_pair step_settled debt_eq view_exact
      (congrArg (Option.map Source.purchaseInvoice) other_eq) fits
  paid payable payable_mem payment payment_mem fits := by
    obtain ⟨index, -, debt_eq⟩ := place_of_mem_payables payable_mem
    obtain ⟨other, payment_eq, fund_eq⟩ := place_of_mem_payments payment_mem
    have index_mem := List.mem_range.mpr (List.getElem?_eq_some_iff.mp debt_eq).1
    have other_mem := List.mem_range.mpr (List.getElem?_eq_some_iff.mp fund_eq).1
    have step_settled := settled .payments (by simp [Settings.passes]) _
      (Step.pair_mem_pairAll index_mem (List.mem_map_of_mem other_mem))
    have view_exact : (PaymentView.payment payment).Exact := exact.payment_exact payment_eq
    exact full_of_settled_pair step_settled debt_eq view_exact
      (congrArg (Option.map Source.fund) fund_eq) fits
  reversed received received_mem made made_mem inbound outbound currency_eq := by
    obtain ⟨index, -, received_eq⟩ := place_of_mem_payments received_mem
    obtain ⟨other, -, made_eq⟩ := place_of_mem_payments made_mem
    have received_sign := inbound_sign received received_mem inbound
    have made_sign := outbound_sign made made_mem outbound
    rw [received.isFullyAllocated_iff, made.isFullyAllocated_iff]
    by_contra both_open
    rw [not_or, not_not, not_not] at both_open
    obtain ⟨received_open, made_open⟩ := both_open
    have index_mem : index ∈
        places (fun fund => decide (0 < fund.remaining)) documents.book.funds :=
      mem_places.mpr ⟨_, received_eq, decide_eq_true (by omega)⟩
    have other_mem : other ∈
        places (fun fund => decide (fund.remaining < 0)) documents.book.funds :=
      mem_places.mpr ⟨_, made_eq, decide_eq_true (by omega)⟩
    have step_settled := settled .reversals (by simp [Settings.passes]) _
      (Step.mem_reverseAll.mpr ⟨index, index_mem, other, other_mem, rfl⟩)
    exact (Book.settled_reverse_iff received_eq made_eq).mp step_settled
      ⟨received_open, made_open, currency_eq⟩
  extras payable mem := by
    obtain ⟨index, -, debt_eq⟩ := place_of_mem_payables mem
    have index_mem := List.mem_range.mpr (List.getElem?_eq_some_iff.mp debt_eq).1
    have step_settled := settled .remainders (by simp [Settings.passes]) _
      (List.mem_map_of_mem index_mem)
    rw [Money.isZero_iff, Money.isZero_iff]
    exact (Book.settled_remainder_iff debt_eq).mp step_settled

/-- What a settlement comes to in ticks, when it comes to its end. -/
theorem ended_book (exact : documents.Exact) (sound : documents.book.Sound settings.leftover)
    (ended : (documents.settle settings).2 = none) :
    (documents.book.settle settings).2 = none ∧
      (documents.book.settle settings).1.book = (documents.settle settings).1.documents.book := by
  have follows := settle_follows exact sound
  refine ⟨?_, congrArg History.book follows.history_eq.symm⟩
  rw [follows.failure_eq, Option.map_eq_none_iff] at ended
  exact ended

/-- A settlement of the documents that a settlement leaves ends without a posting. -/
theorem settle_again (exact : documents.Exact) (sound : documents.book.Sound settings.leftover)
    (ended : (documents.settle settings).2 = none) :
    ((documents.settle settings).1.documents.settle settings).2 = none ∧
      ((documents.settle settings).1.documents.settle settings).1.postings = [] := by
  have follows := settle_follows exact sound
  obtain ⟨book_ended, book_eq⟩ := ended_book exact sound ended
  have after_sound : (documents.settle settings).1.documents.book.Sound settings.leftover :=
    book_eq ▸ ((Book.trail_settle sound).later sound).sound
  have nothing := Book.settle_again sound book_ended
  rw [book_eq] at nothing
  have again := settle_follows follows.exact.documents after_sound
  rw [nothing] at again
  exact ⟨again.failure_eq, List.map_eq_nil_iff.mp (congrArg History.deals again.history_eq)⟩

end Documents

namespace Run

variable {τ σ : Type} [TransactionManager τ] [TransactionManager σ]

/-- A build that came to its end leaves nothing to deal in any step of its passes. -/
theorem steps_settled {run : Run} (fresh : run.documents.Fresh) (unbuilt : run.built = false)
    (ended : (run.documents.settle run.settings).2 = none) :
    ∀ pass ∈ run.settings.passes, ∀ step ∈ run.progress.documents.book.steps pass,
      run.progress.documents.book.Settled run.settings.leftover step := by
  have sound := fresh.sound run.settings.leftover
  obtain ⟨book_ended, book_eq⟩ := Documents.ended_book fresh.exact sound ended
  have settled := Book.settle_settles sound book_ended
  rwa [book_eq, ← progress_of_unbuilt unbuilt] at settled

/-- The documents of a build that came to its end are exhausted. -/
theorem exhausted_of_settled {run : Run} (fresh : run.documents.Fresh)
    (unbuilt : run.built = false) (ended : (run.documents.settle run.settings).2 = none) :
    run.progress.documents.Exhausted run.settings := by
  have later := (progress_trail fresh).later (fresh.sound run.settings.leftover)
  have signs := fresh.signs later
  exact Documents.exhausted_of_settled (progress_exact fresh).documents
    (fun payment mem => (signs payment mem).1) (fun payment mem => (signs payment mem).2)
    (steps_settled fresh unbuilt ended)

/-- A dry run over the documents that a build has left, under the same settings, settles nothing,
leaves them as they are and comes to the same verdict, for nothing is left to settle. -/
theorem build_again (run second : Run) (manager : Option τ) (other : Option σ)
    {result : RunResult} (fresh : run.documents.Fresh)
    (returned : (run.build manager).result = .ok result)
    (documents_eq : second.documents = (run.build manager).run.documents)
    (settings_eq : second.settings = run.settings) (unbuilt : second.built = false)
    (dry : second.dryRun = true) :
    (second.build other).result =
        .ok { candidates := [], verdict := result.verdict, allocations := [] } ∧
      (second.build other).run.documents = second.documents ∧
      second.documents.Exhausted run.settings := by
  have returns := returns_of_result returned
  have progress_eq := progress_of_unbuilt returns.unbuilt
  have documents_eq : second.documents = (run.documents.settle run.settings).1.documents := by
    rw [documents_eq, run_build, progress_eq]
  obtain ⟨ended, unposted⟩ :=
    Documents.settle_again fresh.exact (fresh.sound run.settings.leftover) returns.settled
  rw [← documents_eq, ← settings_eq] at ended unposted
  have second_eq := progress_of_unbuilt unbuilt
  have unchanged : second.progress.documents = second.documents := by
    rw [second_eq]
    exact Documents.settle_unposted ended unposted
  have no_candidates : second.progress.candidates = [] := by
    rw [second_eq, Progress.candidates, unposted]
    rfl
  have same_verdict : { second with documents := second.progress.documents }.verdict =
      result.verdict := by
    rw [returns.verdict_eq, run_build, unchanged, verdict, verdict, settings_eq, documents_eq,
      progress_eq]
  refine ⟨?_, ?_, ?_⟩
  · rw [result_of_dry unbuilt dry ended, no_candidates, same_verdict]
  · rw [run_build]
    exact unchanged
  · rw [documents_eq, ← progress_eq]
    exact exhausted_of_settled fresh returns.unbuilt returns.settled

end Run

/-- A dry run over the samples. -/
def Samples.preview : Run := { Samples.run with dryRun := true }

/-- A dry run over the documents that the first one leaves. -/
def Samples.review : Run :=
  { Samples.preview with
    documents := (Samples.preview.build (none : Option MemoryManager)).run.documents }

/-- A dry run over the samples leaves nothing for another one. -/
theorem Run.build_again_samples :
    Samples.preview.documents.Fresh ∧
      ∃ result, (Samples.preview.build (none : Option MemoryManager)).result = .ok result ∧
        Samples.review.settings = Samples.preview.settings ∧ Samples.review.built = false ∧
        Samples.review.dryRun = true ∧
        (Samples.review.build (none : Option MemoryManager)).result =
          .ok { candidates := [], verdict := result.verdict, allocations := [] } ∧
        (Samples.review.build (none : Option MemoryManager)).run.documents =
          Samples.review.documents ∧
        Samples.review.documents.Exhausted Samples.preview.settings := by
  obtain ⟨result, returned⟩ :
      ∃ result, (Samples.preview.build (none : Option MemoryManager)).result = .ok result :=
    exists_eq_ok (by decide +kernel)
  have again := build_again Samples.preview Samples.review (none : Option MemoryManager)
    (none : Option MemoryManager) Samples.documents_fresh returned rfl rfl rfl rfl
  exact ⟨Samples.documents_fresh, result, returned, rfl, rfl, rfl, again⟩

end Settlement
