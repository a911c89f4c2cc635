import Settlement.Proofs.Currencies.Mirror
import Settlement.Proofs.Reconciliation
import Settlement.Proofs.Transitions

/-!
# Every pairing makes progress

A candidate with a payment settles as much as its two documents have left and so closes one of
them, for good.  That bounds what a build can propose: every two documents are paired at most once,
there is one pairing less than there are documents, and a payable gets one candidate at most that
comes without a payment.
-/

namespace Settlement

/-- How a build pairs documents up. -/
structure Build.PairsUp {τ : Type} (before : Run) (build : Build τ) : Prop where
  /-- A result tells the candidates of the transitions. -/
  told : ∀ result, build.result = .ok result →
    result.candidates = (build.transitions before.documents).map Transition.candidate
  /-- Every candidate with a payment matches two documents. -/
  matched : ∀ transition ∈ build.transitions before.documents,
    transition.candidate.payment.isSome = true → ∃ paid paying, transition.Matches paid paying
  /-- What is left of two open documents that fit each other is on one side of zero. -/
  same_side : ∀ documents ∈ build.stages before.documents, ∀ payable ∈ documents.payables,
    ∀ means view, documents.view means = .ok view → view.fits payable = true →
      payable.isFullyAllocated = false → view.isFullyAllocated = false →
        payable.remaining.pay.isNegative = view.remaining.isNegative
  /-- No two documents are paired twice. -/
  paired_once :
    (((build.postings.map Posting.candidate).filter fun candidate =>
      candidate.payment.isSome).map fun candidate =>
        (candidate.payable, candidate.payment)).Nodup
  /-- There is one pairing less than there are documents. -/
  few : (build.postings.map Posting.candidate).countP (fun candidate => candidate.payment.isSome) ≤
    before.documents.payables.length + before.documents.payments.length - 1
  /-- A payable gets one candidate at most that grants a discount or a write-off by itself. -/
  conceded_once :
    (((build.postings.map Posting.candidate).filter fun candidate =>
      candidate.kind = .invoiceDiscountOrWriteOff).map Candidate.payable).Nodup

/-- A document seen as a payment is read as its source. -/
theorem Documents.source_of_view {documents : Documents} (exact : documents.Exact) {means : Means}
    {view : PaymentView} (view_eq : documents.view means = .ok view) :
    view.Exact ∧ documents.book.source? means = some view.source := by
  cases means with
  | payment index =>
      obtain ⟨payment, payment_eq, rfl⟩ := map_eq_ok.mp view_eq
      have found := entry_eq_ok.mp payment_eq
      exact ⟨exact.payment_exact found, congrArg (Option.map Source.fund) (fund_of_payment found)⟩
  | creditMemo index =>
      obtain ⟨payable, payable_eq, rfl⟩ := map_eq_ok.mp view_eq
      have found := entry_eq_ok.mp payable_eq
      exact ⟨exact.payable_exact found,
        congrArg (Option.map Source.creditMemo) (debt_of_payable found)⟩
  | purchaseInvoice index =>
      obtain ⟨payable, payable_eq, rfl⟩ := map_eq_ok.mp view_eq
      have found := entry_eq_ok.mp payable_eq
      exact ⟨exact.payable_exact found,
        congrArg (Option.map Source.purchaseInvoice) (debt_of_payable found)⟩

/-- What is left of two open documents that fit each other is on one side of zero, so that the one
can pay something of the other. -/
theorem Documents.same_side {documents : Documents} {policy : LeftoverPolicy}
    (exact : documents.Exact) (sound : documents.book.Sound policy) {payable : Payable}
    (mem : payable ∈ documents.payables) {means : Means} {view : PaymentView}
    (view_eq : documents.view means = .ok view) (fits : view.fits payable = true)
    (payable_open : payable.isFullyAllocated = false) (view_open : view.isFullyAllocated = false) :
    payable.remaining.pay.isNegative = view.remaining.isNegative := by
  obtain ⟨view_exact, source_eq⟩ := source_of_view exact view_eq
  have debt_open : payable.debt.IsOpen := fun closed =>
    Bool.false_ne_true (payable_open.symm.trans
      (payable.isFullyAllocated_iff.mpr (not_not.mpr closed)))
  have source_open : view.source.IsOpen := fun closed =>
    Bool.false_ne_true (view_open.symm.trans (view.isFullyAllocated_iff.mpr (not_not.mpr closed)))
  have debt_within := (sound.debts payable.debt (List.mem_map_of_mem mem)).remaining_within
  have same := ((PaymentView.fits_iff view_exact).mp fits).remaining_sign debt_within
    (sound.source_within source_eq) debt_open source_open
  rw [Bool.eq_iff_iff, Money.isNegative_iff, Money.isNegative_iff,
    ← PaymentView.remaining_source view_exact]
  exact same

namespace Run

variable {τ : Type} [TransactionManager τ]

/-- A build of fresh documents makes progress with every pairing, whatever it comes to. -/
theorem build_pairs_up (run : Run) (manager : Option τ) (fresh : run.documents.Fresh)
    (distinct : run.documents.references.Nodup) : (run.build manager).PairsUp run := by
  have trail := progress_trail fresh
  have sound := fresh.sound run.settings.leftover
  have book_distinct := Documents.distinct_book distinct
  have exact := transitions_exact manager fresh
  have made := transitions_made manager fresh
  have moves_eq := move_transitions run manager
  rw [Build.transitions] at moves_eq
  constructor
  · intro result returned
    rw [candidates_transitions, (returns_of_result returned).candidates_eq]
  · intro transition mem names_payment
    obtain ⟨paid, paying, matched⟩ := (made transition mem).matches names_payment
    exact (exact transition mem).matches matched
  · intro documents mem payable payable_mem means view view_eq fits payable_open view_open
    have later : Book.Later run.settings.leftover run.documents.book documents.book := by
      rcases List.mem_cons.mp mem with rfl | after
      · exact .refl sound
      · exact (List.pairwise_cons.mp (stages_later manager fresh)).1 documents after
    exact Documents.same_side (exact_of_mem_stages manager fresh documents mem) later.sound
      payable_mem view_eq fits payable_open view_open
  · have once := trail.matches_once sound book_distinct
    rw [← moves_eq, List.pairwise_map] at once
    rw [← candidates_transitions, List.Nodup, List.pairwise_map, List.pairwise_filter,
      List.pairwise_map]
    exact once.imp fun apart names_payment _ => apart names_payment
  · have bounded := trail.matchCount_le sound book_distinct
    rw [postings_build]
    simp only [History.matchCount, Progress.history, List.countP_map, Documents.book,
      List.length_map] at bounded
    rw [List.countP_map]
    exact bounded
  · have apart := (progress_concededOnce fresh).payable_ne (trail.moves_made sound) book_distinct
    rw [← moves_eq, List.pairwise_map] at apart
    rw [← candidates_transitions, List.Nodup, List.pairwise_map, List.pairwise_filter,
      List.pairwise_map]
    exact apart.imp fun differs first_kind second_kind =>
      differs (of_decide_eq_true first_kind) (of_decide_eq_true second_kind)

/-- A run over the samples makes four pairings of six documents, and grants one discount by
itself. -/
theorem build_pairs_up_samples :
    Samples.run.documents.Fresh ∧ Samples.run.documents.references.Nodup ∧
      ((Samples.run.build (none : Option MemoryManager)).postings.map Posting.candidate).countP
          (fun candidate => candidate.payment.isSome) = 4 ∧
      (Samples.run.build (none : Option MemoryManager)).PairsUp Samples.run := by
  have paired := build_pairs_up Samples.run (none : Option MemoryManager) Samples.documents_fresh
    Samples.documents_distinct
  exact ⟨Samples.documents_fresh, Samples.documents_distinct, by decide +kernel, paired⟩

end Run
end Settlement
