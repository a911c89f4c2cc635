import Settlement.Proofs.Exact.Proposals

/-!
# A settlement follows its book

A settlement of exact documents and the settlement of the book that they are read as go hand in
hand: the same steps are taken, the same deals are made, and where one of them stops the other
does, for the same reason.  So whatever holds along every trail of a sound book holds along every
settlement.
-/

namespace Settlement

/-! ## Progress -/

namespace Posting

/-- All amounts of the candidate and of the documents are exact. -/
structure Exact (posting : Posting) : Prop where
  candidate : posting.candidate.Exact
  documents : posting.documents.Exact

/-- The posting in ticks. -/
def deal (posting : Posting) : Deal := ⟨posting.candidate.entry, posting.documents.book⟩

end Posting

namespace Progress

/-- All amounts so far are exact. -/
structure Exact (progress : Progress) : Prop where
  documents : progress.documents.Exact
  postings : ∀ posting ∈ progress.postings, posting.Exact

/-- The progress in ticks. -/
def history (progress : Progress) : History :=
  ⟨progress.documents.book, progress.postings.map Posting.deal⟩

/-- An advance is exact, is read as the outcome of a history and stops where that stops. -/
structure Follows (advance : Advance) (outcome : History × Option AllocationError) : Prop where
  exact : advance.1.Exact
  history_eq : advance.1.history = outcome.1
  failure_eq : advance.2 = outcome.2.map .refused

variable {progress : Progress} {policy : LeftoverPolicy}

theorem Exact.report (exact : progress.Exact) (event : Event) : (progress.report event).Exact :=
  ⟨exact.documents, exact.postings⟩

@[simp]
theorem history_report (progress : Progress) (event : Event) :
    (progress.report event).history = progress.history := rfl

theorem Follows.refl (exact : progress.Exact) : Follows (progress, none) (progress.history, none) :=
  ⟨exact, rfl, rfl⟩

/-- Advances that follow one another go on alike. -/
theorem Follows.proceed {advance : Advance} {outcome : History × Option AllocationError}
    (follows : Follows advance outcome) {next : Progress → Advance}
    {next' : History → History × Option AllocationError}
    (goes_on : outcome.2 = none → ∀ progress, progress.Exact → progress.history = outcome.1 →
      Follows (next progress) (next' outcome.1)) :
    Follows (Progress.proceed advance next) (History.proceed outcome next') := by
  obtain ⟨progress, failure⟩ := advance
  obtain ⟨history, error⟩ := outcome
  obtain ⟨exact, history_eq, failure_eq⟩ := follows
  dsimp only at failure_eq
  subst failure_eq
  cases error with
  | none => exact goes_on rfl progress exact history_eq
  | some error => exact ⟨exact, history_eq, rfl⟩

/-- A change that comes to its end changes the documents. -/
theorem change_complete (progress : Progress) (documents : Documents) :
    progress.change (.complete documents) = ({ progress with documents }, none) := rfl

/-- A proposal that is recorded in full is posted. -/
theorem book_eq {proposal : Proposal} {changed : Documents}
    (recorded : proposal.record progress.documents = .complete changed) :
    progress.book proposal =
      ({ documents := changed
         postings := progress.postings ++ [⟨proposal.candidate, changed⟩]
         events := progress.events ++ [proposal.event] }, none) := by
  rw [book, recorded, change_complete]
  rfl

/-- What is proposed is settled as the book settles the deal. -/
theorem settle_follows (exact : progress.Exact) {deal? : Option Deal}
    {proposed : Except Failure (Option Proposal)}
    (proposes : Proposes progress.documents deal? proposed) :
    Follows (progress.settle proposed) (progress.history.settle deal?) := by
  cases proposes with
  | nothing => exact .refl exact
  | refused refusal =>
      simp only [History.settle, refusal]
      exact ⟨exact, rfl, rfl⟩
  | made accepted candidate_exact entry_eq becomes =>
      rename_i deal proposal
      obtain ⟨changed, changed_eq, changed_exact, changed_book⟩ := becomes
      have deal_eq : (Posting.mk proposal.candidate changed).deal = deal := by
        rw [Posting.deal, entry_eq, changed_book]
      simp only [History.settle, accepted, settle, book_eq changed_eq]
      refine ⟨⟨changed_exact, ?_⟩, ?_, rfl⟩
      · intro posting mem
        rcases List.mem_append.mp mem with earlier | last
        · exact exact.postings posting earlier
        · rw [List.mem_singleton.mp last]
          exact ⟨candidate_exact, changed_exact⟩
      · simp only [history, History.record, List.map_append, List.map_singleton, deal_eq,
          changed_book]

/-! ## Steps -/

/-- A leftover is dealt with as in the book. -/
theorem settleLeftover_follows (exact : progress.Exact)
    (sound : progress.documents.book.Sound policy) {index : Nat}
    (bound : index < progress.documents.book.debts.length) :
    Follows (progress.settleLeftover policy index)
      (progress.history.settle (progress.documents.book.leftover? policy index)) := by
  obtain ⟨payable, payable_eq, debt_eq⟩ := Documents.payable_of_lt bound
  have full_iff := payable.isFullyAllocated_iff
  simp only [settleLeftover, Documents.payable_eq_ok payable_eq]
  by_cases full : payable.isFullyAllocated = true
  · rw [if_pos full, Book.leftover?, debt_eq]
    dsimp only
    rw [if_neg fun conditions => full_iff.mp full conditions.1]
    exact .refl exact
  have debt_open : payable.debt.IsOpen := by rwa [full_iff, not_not] at full
  rw [if_neg full]
  by_cases leaves : policy = .leaveOpen
  · rw [Book.leftover?, debt_eq]
    dsimp only
    rw [if_neg fun conditions => conditions.2 leaves, leaves]
    exact .refl exact
  obtain ⟨move, changed, move_eq, changed_eq, changed_exact, proposes⟩ :=
    Documents.leftover_proposes exact.documents sound payable_eq debt_open leaves
  rw [move_eq]
  simp only [changed_eq, change_complete]
  have between : Exact { progress with documents := changed } := ⟨changed_exact, exact.postings⟩
  have follows := settle_follows between proposes
  -- The entry has no payment, so it is accepted and the moved book in between leaves no trace.
  have dealt : progress.documents.book.leftover? policy index = some _ :=
    Book.deal?_eq_some_iff.mpr (Book.Deals.leftover debt_eq debt_open leaves)
  rw [dealt] at follows ⊢
  exact follows

/-- A well-placed step is taken as in the book. -/
theorem run_follows (exact : progress.Exact) (sound : progress.history.book.Sound policy)
    {step : Step} (placed : progress.history.book.Placed step) :
    Follows (step.run policy progress) (progress.history.step policy step) := by
  cases step with
  | pair kind index means =>
      exact settle_follows exact (Documents.pairing_proposes exact.documents sound placed)
  | leftover index => exact settleLeftover_follows exact sound placed
  | reverse inbound outbound =>
      exact settle_follows exact (Documents.reversal_proposes exact.documents sound placed)
  | remainder index =>
      exact settle_follows exact (Documents.remainder_proposes exact.documents sound placed)

/-- Well-placed steps are taken as in the book. -/
theorem runAll_follows (exact : progress.Exact) (sound : progress.history.book.Sound policy)
    {steps : List Step} (placed : ∀ step ∈ steps, progress.history.book.Placed step) :
    Follows (Step.runAll policy steps progress) (progress.history.runAll policy steps) := by
  induction steps generalizing progress with
  | nil => exact .refl exact
  | cons step rest ih =>
      have here := placed step (by simp)
      have later := History.later_step sound here
      rw [Step.runAll, History.runAll]
      refine (run_follows exact sound here).proceed fun _ after after_exact after_eq => ?_
      rw [← after_eq] at later ⊢
      exact ih after_exact later.sound fun other mem => later.placed (placed other (by simp [mem]))

/-- Well-placed steps over exact documents leave exact ones and a later book. -/
theorem later_runAll (exact : progress.Exact) (sound : progress.history.book.Sound policy)
    {steps : List Step} (placed : ∀ step ∈ steps, progress.history.book.Placed step) :
    (Step.runAll policy steps progress).1.Exact ∧
      Book.Later policy progress.history.book
        (Step.runAll policy steps progress).1.history.book := by
  have follows := runAll_follows exact sound placed
  exact ⟨follows.exact, follows.history_eq ▸ History.later_runAll sound placed⟩

end Progress

/-! ## Passes -/

theorem Payment.inbound_iff (payment : Payment) :
    (!payment.isFullyAllocated && payment.remaining.isPositive) =
      decide (0 < payment.fund.remaining) := by
  have ticks_eq : payment.fund.remaining = payment.remaining.ticks := rfl
  rw [Bool.eq_iff_iff, Bool.and_eq_true, Bool.not_eq_true', ← Bool.not_eq_true, isFullyAllocated,
    Money.isZero_iff, Money.isPositive_iff, decide_eq_true_eq, ticks_eq]
  omega

theorem Payment.outbound_iff (payment : Payment) :
    (!payment.isFullyAllocated && !payment.remaining.isPositive) =
      decide (payment.fund.remaining < 0) := by
  have ticks_eq : payment.fund.remaining = payment.remaining.ticks := rfl
  rw [Bool.eq_iff_iff, Bool.and_eq_true, Bool.not_eq_true', Bool.not_eq_true', ← Bool.not_eq_true,
    ← Bool.not_eq_true, isFullyAllocated, Money.isZero_iff, Money.isPositive_iff,
    decide_eq_true_eq, ticks_eq]
  omega

/-- The steps of a pass over documents are those over their book. -/
theorem Documents.steps_book (documents : Documents) (pass : Pass) :
    pass.steps documents = documents.book.steps pass := by
  cases pass with
  | creditMemos =>
      rw [Pass.steps, Book.steps, book, places_map, places_map]
      rfl
  | compensation =>
      rw [Pass.steps, Book.steps, book, places_map, places_map]
      rfl
  | payments => rw [Pass.steps, Book.steps, book, List.length_map, List.length_map, means]
  | reversals =>
      rw [Pass.steps, Book.steps, book, places_map, places_map, funext Payment.inbound_iff,
        funext Payment.outbound_iff]
  | remainders => rw [Pass.steps, Book.steps, book, List.length_map]

/-- Documents are refused for what they say, and so is their book. -/
theorem Documents.check_book (documents : Documents) (settings : Settings) :
    documents.check settings = documents.book.check settings := by
  simp only [check, isEmpty, checkVendorDocuments, outboundPayments, vendorCreditMemos,
    vendorPayables, Book.check, Book.terms, book, List.map_map, List.isEmpty_map,
    List.filter_map, List.length_map, ite_and]
  rfl

namespace Progress

variable {progress : Progress} {policy : LeftoverPolicy}

theorem proceed_done (outcome : History × Option AllocationError) :
    History.proceed outcome (fun history => (history, none)) = outcome := by
  obtain ⟨history, error⟩ := outcome
  cases error <;> rfl

/-- A pass over documents is run as over their book. -/
theorem pass_follows (exact : progress.Exact) (sound : progress.history.book.Sound policy)
    (pass : Pass) :
    Follows (pass.run policy progress)
      (progress.history.runAll policy (progress.history.book.steps pass)) := by
  have follows := runAll_follows exact sound (Book.placed_steps sound pass)
  have steps_eq : pass.steps progress.documents = progress.history.book.steps pass :=
    progress.documents.steps_book pass
  rw [Pass.run, steps_eq, ← proceed_done (progress.history.runAll policy _)]
  refine follows.proceed fun _ after after_exact after_eq => ?_
  rw [← after_eq]
  split
  · exact .refl (after_exact.report _)
  · exact .refl after_exact

/-- Passes over documents are run as over their book. -/
theorem passes_follow (exact : progress.Exact) (sound : progress.history.book.Sound policy)
    (passes : List Pass) :
    Follows (Pass.runAll policy passes progress) (progress.history.runPasses policy passes) := by
  induction passes generalizing progress with
  | nil => exact .refl exact
  | cons pass rest ih =>
      have later := History.later_pass sound pass
      rw [Pass.runAll, History.runPasses]
      refine (pass_follows exact sound pass).proceed fun _ after after_exact after_eq => ?_
      rw [← after_eq] at later ⊢
      exact ih after_exact later.sound

/-- Passes over exact documents leave exact ones and a later book. -/
theorem later_runPasses (exact : progress.Exact) (sound : progress.history.book.Sound policy)
    (passes : List Pass) :
    (Pass.runAll policy passes progress).1.Exact ∧
      Book.Later policy progress.history.book
        (Pass.runAll policy passes progress).1.history.book := by
  have follows := passes_follow exact sound passes
  exact ⟨follows.exact, follows.history_eq ▸ History.later_runPasses sound passes⟩

end Progress

/-- Documents are settled as their book is. -/
theorem Documents.settle_follows {documents : Documents} (exact : documents.Exact)
    {settings : Settings} (sound : documents.book.Sound settings.leftover) :
    Progress.Follows (documents.settle settings) (documents.book.settle settings) := by
  have start : Progress.Exact { documents } := ⟨exact, by simp⟩
  rw [settle, Book.settle, check_book]
  cases documents.book.check settings with
  | error error => exact ⟨start, rfl, rfl⟩
  | ok checked => exact Progress.passes_follow start sound settings.passes

end Settlement
