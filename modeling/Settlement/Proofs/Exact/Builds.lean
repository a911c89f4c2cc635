import Settlement.Proofs.Exact.Fresh
import Settlement.Proofs.Exact.Simulation
import Settlement.Run.Basic

/-!
# Builds of fresh documents

Whatever a build returns, it leaves the documents and the postings of one settlement behind.  For
fresh documents these are exact and leave a trail that starts from the book of the documents.
-/

namespace Settlement

namespace Run

variable {τ : Type} [TransactionManager τ] {run : Run} {manager : Option τ}

/-- How far a build settles the documents: not at all when the run was built before. -/
def progress (run : Run) : Progress :=
  if run.built then { documents := run.documents } else (run.documents.settle run.settings).1

theorem progress_of_built (built : run.built = true) :
    run.progress = { documents := run.documents } :=
  if_pos built

theorem progress_of_unbuilt (unbuilt : run.built = false) :
    run.progress = (run.documents.settle run.settings).1 :=
  if_neg (Bool.eq_false_iff.mp unbuilt)

theorem build_of_built (manager : Option τ) (built : run.built = true) :
    run.build manager = ⟨run, manager, [], [run.opening], .error (.refused .alreadyBuilt)⟩ :=
  if_pos built

theorem build_of_unbuilt (manager : Option τ) (unbuilt : run.built = false) :
    run.build manager = run.buildFresh manager :=
  if_neg (Bool.eq_false_iff.mp unbuilt)

theorem run_finish (run : Run) (progress : Progress) (events : List Event)
    (manager : Option τ) : (run.finish progress events manager).run = run := by
  unfold finish
  split
  · rfl
  · split <;> rfl

theorem postings_finish (run : Run) (progress : Progress) (events : List Event)
    (manager : Option τ) : (run.finish progress events manager).postings = progress.postings := by
  unfold finish
  split
  · rfl
  · split <;> rfl

/-- A build changes the run only in its documents, and marks it as built. -/
theorem run_build (run : Run) (manager : Option τ) :
    (run.build manager).run = { run with documents := run.progress.documents, built := true } := by
  cases built : run.built with
  | true =>
      rw [build_of_built manager built, progress_of_built built]
      cases run
      simp_all
  | false =>
      rw [build_of_unbuilt manager built, progress_of_unbuilt built, buildFresh]
      dsimp only
      split
      · rfl
      · exact run_finish _ _ _ _

theorem postings_build (run : Run) (manager : Option τ) :
    (run.build manager).postings = run.progress.postings := by
  cases built : run.built with
  | true => rw [build_of_built manager built, progress_of_built built]
  | false =>
      rw [build_of_unbuilt manager built, progress_of_unbuilt built, buildFresh]
      dsimp only
      split
      · rfl
      · exact postings_finish _ _ _ _

/-- What stands behind a result: the run was not built before, the settlement came to its end and
the verdict did not stop it, and the candidates were booked unless the run is dry. -/
structure Returns (run : Run) (manager : Option τ) (result : RunResult) : Prop where
  unbuilt : run.built = false
  settled : (run.documents.settle run.settings).2 = none
  candidates_eq : result.candidates = (run.build manager).postings.map Posting.candidate
  verdict_eq : result.verdict = (run.build manager).run.verdict
  raised : (run.build manager).run.raiseUnlessDry = .ok ()
  booked : (run.build manager).run.bookUnlessDry result.candidates manager =
    (.ok result.allocations, (run.build manager).manager)

theorem Returns.candidates_progress {result : RunResult} (returns : run.Returns manager result) :
    result.candidates = run.progress.candidates := by
  rw [returns.candidates_eq, postings_build]
  rfl

theorem finish_ok {progress : Progress} {events : List Event} {result : RunResult}
    (returned : (run.finish progress events manager).result = .ok result) :
    result.candidates = progress.candidates ∧ result.verdict = run.verdict ∧
      run.raiseUnlessDry = .ok () ∧
      run.bookUnlessDry result.candidates manager =
        (.ok result.allocations, (run.finish progress events manager).manager) := by
  unfold finish at returned ⊢
  cases raised : run.raiseUnlessDry with
  | error error =>
      simp only [raised] at returned
      cases returned
  | ok passed =>
      simp only [raised] at returned ⊢
      cases booked : run.bookUnlessDry progress.candidates manager with
      | mk allocations after =>
          rw [booked] at returned
          cases allocations with
          | error error => cases returned
          | ok allocations =>
              cases returned
              exact ⟨rfl, rfl, trivial, booked⟩

/-- A build that returns a result has come to its end. -/
theorem returns_of_result {result : RunResult}
    (returned : (run.build manager).result = .ok result) : run.Returns manager result := by
  cases built : run.built with
  | true =>
      rw [build_of_built manager built] at returned
      cases returned
  | false =>
      have build_eq := build_of_unbuilt manager built
      unfold buildFresh at build_eq
      cases settled : run.documents.settle run.settings with
      | mk progress failure =>
          simp only [settled] at build_eq
          cases failure with
          | some failure =>
              rw [build_eq] at returned
              cases returned
          | none =>
              rw [build_eq] at returned
              obtain ⟨candidates_eq, verdict_eq, raised, booked⟩ := finish_ok returned
              refine ⟨built, by rw [settled], ?_, ?_, ?_, ?_⟩
              · rw [candidates_eq, build_eq, postings_finish]
                rfl
              · rw [verdict_eq, build_eq, run_finish]
              · rw [build_eq, run_finish]
                exact raised
              · rw [build_eq, run_finish]
                exact booked

/-- A dry run whose settlement comes to its end returns what it settled and books nothing. -/
theorem result_of_dry (unbuilt : run.built = false) (dry : run.dryRun = true)
    (settled : (run.documents.settle run.settings).2 = none) :
    (run.build manager).result =
      .ok
        { candidates := run.progress.candidates
          verdict := { run with documents := run.progress.documents }.verdict
          allocations := [] } := by
  rw [build_of_unbuilt manager unbuilt, progress_of_unbuilt unbuilt, buildFresh]
  simp only [settled, finish, raiseUnlessDry, dry, if_true, bookUnlessDry, Bool.or_true]
  rfl

/-- A strict verdict stops a build that is not dry. -/
theorem result_of_failed (unbuilt : run.built = false) (wet : run.dryRun = false)
    (settled : (run.documents.settle run.settings).2 = none) {documents : OpenDocuments}
    (failed : (run.build manager).run.verdict = .failed documents) :
    (run.build manager).result = .error (.refused documents.error) := by
  rw [run_build, progress_of_unbuilt unbuilt] at failed
  rw [build_of_unbuilt manager unbuilt, buildFresh]
  simp only [settled, finish, raiseUnlessDry, wet, Bool.false_eq_true, if_false]
  rw [wet] at failed
  rw [failed, Verdict.raise]

/-! ## Fresh documents -/

theorem progress_exact (fresh : run.documents.Fresh) : run.progress.Exact := by
  cases built : run.built with
  | true =>
      rw [progress_of_built built]
      exact ⟨fresh.exact, by simp⟩
  | false =>
      rw [progress_of_unbuilt built]
      exact (Documents.settle_follows fresh.exact (fresh.sound _)).exact

/-- A build of fresh documents leaves a trail that starts from their book. -/
theorem progress_trail (fresh : run.documents.Fresh) :
    Trail run.settings.leftover run.documents.book run.progress.history := by
  cases built : run.built with
  | true =>
      rw [progress_of_built built]
      exact .nil
  | false =>
      rw [progress_of_unbuilt built,
        (Documents.settle_follows fresh.exact (fresh.sound _)).history_eq]
      exact Book.trail_settle (fresh.sound _)

/-- Settling the samples runs through every pass. -/
theorem kinds_samples :
    (Samples.run.progress.postings.map fun posting => posting.candidate.kind) =
      [.invoiceToCreditMemo, .salesInvoiceToPurchaseInvoice, .invoiceToPayment,
        .inboundPaymentToOutboundPayment, .invoiceDiscountOrWriteOff] := by
  decide +kernel

end Run
end Settlement
