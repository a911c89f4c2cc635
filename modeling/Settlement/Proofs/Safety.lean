import Settlement.Proofs.AllOrNothing
import Settlement.Proofs.Exact.Acceptance
import Settlement.Proofs.Exact.Sides
import Settlement.Proofs.Reconciliation

/-!
# Builds are safe

A build of fresh documents with distinct references is never cut short by a fault and is never
refused for a candidate that cannot be made.  It stops only before it matches anything, at its
verdict, for want of a date, a manager or a kind of header, or because the store fails.
-/

namespace Settlement

namespace Run

variable {run : Run} {property : AllocationError → Prop}

theorem failsOnly_finish {τ : Type} [TransactionManager τ] {progress : Progress}
    {events : List Event} {manager : Option τ} (raised : FailsOnly property run.raiseUnlessDry)
    (booked : FailsOnly property (run.bookUnlessDry progress.candidates manager).1) :
    FailsOnly (∃ error, · = .refused error ∧ property error)
      (run.finish progress events manager).result := by
  unfold finish
  cases raised_eq : run.raiseUnlessDry with
  | error error => exact failsOnly_error ⟨error, rfl, raised error raised_eq⟩
  | ok passed =>
      generalize run.bookUnlessDry progress.candidates manager = booking at booked ⊢
      rcases booking with ⟨error | allocations, after⟩
      · exact failsOnly_error ⟨error, rfl, booked error rfl⟩
      · exact failsOnly_ok _

/-- A header can be drawn up for every candidate of fresh invoices. -/
theorem linesFor_of_mem_candidates (fresh : run.documents.Fresh)
    (invoices : ∀ payable ∈ run.documents.payables, payable.kind = .invoice) :
    ∀ candidate ∈ run.progress.candidates, ∃ lines, Header.linesFor candidate = .ok lines := by
  intro candidate mem
  have sided := sided_of_mem_candidates fresh invoices candidate mem
  obtain ⟨kind, organization, partner, payable, payment, amounts, payableOver, paymentOver⟩ :=
    candidate
  dsimp only at sided
  cases sided with
  | paid invoice payment => exact ⟨_, rfl⟩
  | credited invoice memo => exact ⟨_, rfl⟩
  | compensated invoice bill => exact ⟨_, rfl⟩
  | reversed made received => exact ⟨_, rfl⟩
  | conceded invoice => exact ⟨_, rfl⟩

end Run

/-- Fresh documents with distinct references that pass the guards are settled to the end. -/
theorem Documents.Fresh.settle_ends {documents : Documents} (fresh : documents.Fresh)
    (distinct : documents.references.Nodup) {settings : Settings}
    (checked : documents.check settings = .ok ()) : (documents.settle settings).2 = none := by
  have sound := fresh.sound settings.leftover
  rw [(settle_follows fresh.exact sound).failure_eq, Option.map_eq_none_iff]
  apply Book.settle_ends sound (distinct_book distinct)
  rwa [← check_book]

/-- A settlement of fresh documents with distinct references stops at nothing but its guards. -/
theorem Documents.Fresh.settle_guarded {documents : Documents} (fresh : documents.Fresh)
    (distinct : documents.references.Nodup) {settings : Settings} {failure : Failure}
    (stopped : (documents.settle settings).2 = some failure) :
    ∃ error, failure = .refused error ∧ error.stage = .guards := by
  cases checked : documents.check settings with
  | error error =>
      rw [settle, checked] at stopped
      cases stopped
      exact ⟨error, rfl, documents.failsOnly_check settings error checked⟩
  | ok passed => cases stopped.symm.trans (fresh.settle_ends distinct checked)

/-- What a build may be refused for: nothing about its candidates, and no pair of documents unless
a prepay order takes part. -/
structure Run.Excuses (run : Run) (error : AllocationError) : Prop where
  made : error.stage ≠ .candidates
  paired : (∀ payable ∈ run.documents.payables, payable.kind ≠ .prepayOrder) →
    ∀ payable payment, error ≠ .unsupportedPair payable payment

namespace Run

variable {run : Run}

/-- An error of another stage is no error about candidates or headers. -/
theorem excuses_of_stage {error : AllocationError} {stage : Stage} (stage_eq : error.stage = stage)
    (made : stage ≠ .candidates) (drawn : stage ≠ .headers) : run.Excuses error where
  made := stage_eq ▸ made
  paired := by
    rintro - payable payment rfl
    exact drawn stage_eq.symm

theorem excuses_of_configuration (text : String) : run.Excuses (.configuration text) where
  made := Stage.noConfusion
  paired _ _ _ := AllocationError.noConfusion

/-- Drawing up the headers of a build is not refused for a pair of documents without a prepay
order. -/
theorem excuses_of_headers (fresh : run.documents.Fresh) :
    FailsOnly run.Excuses (run.headers run.progress.candidates) := by
  apply run.failsOnly_headers excuses_of_configuration
  intro candidate mem error failed
  constructor
  · rw [failsOnly_linesFor candidate error failed]
    exact Stage.noConfusion
  · intro no_orders
    have invoices : ∀ payable ∈ run.documents.payables, payable.kind = .invoice := by
      intro payable payable_mem
      cases kind : payable.kind with
      | invoice => rfl
      | prepayOrder => exact absurd kind (no_orders payable payable_mem)
    obtain ⟨lines, lines_eq⟩ := linesFor_of_mem_candidates fresh invoices candidate mem
    cases failed.symm.trans lines_eq

/-- A build of fresh documents with distinct references never breaks, and whatever refuses it is
not about its candidates. -/
theorem build_safe (run : Run) (manager : Option MemoryManager) (fresh : run.documents.Fresh)
    (distinct : run.documents.references.Nodup) :
    FailsOnly (∃ error, · = .refused error ∧ run.Excuses error) (run.build manager).result := by
  cases built : run.built with
  | true =>
      rw [build_of_built manager built]
      have guarded : AllocationError.alreadyBuilt.stage = .guards := rfl
      exact failsOnly_error ⟨_, rfl, excuses_of_stage guarded (by decide) (by decide)⟩
  | false =>
      have drawn := excuses_of_headers fresh
      rw [progress_of_unbuilt built] at drawn
      rw [build_of_unbuilt manager built, buildFresh]
      dsimp only
      split
      · rename_i failure stopped
        obtain ⟨error, rfl, guarded⟩ := fresh.settle_guarded distinct stopped
        exact failsOnly_error ⟨error, rfl, excuses_of_stage guarded (by decide) (by decide)⟩
      · apply failsOnly_finish
        · intro error raised
          have unsettled := failsOnly_raiseUnlessDry _ error raised
          exact excuses_of_stage unsettled (by decide) (by decide)
        · apply failsOnly_bookUnlessDry manager drawn excuses_of_configuration
          intro cause
          have stored : (AllocationError.persistence cause).stage = .store := rfl
          exact excuses_of_stage stored (by decide) (by decide)

/-- A run over the samples on a ledger that fails at the second header is refused for just that. -/
theorem build_safe_failing :
    Samples.run.documents.Fresh ∧ Samples.run.documents.references.Nodup ∧
      ∃ error,
        (Samples.run.build (some ({ ledger := { limit := some 1 } } : MemoryManager))).result =
          .error (.refused error) ∧
        error.stage = .store ∧ Samples.run.Excuses error := by
  have safe := build_safe Samples.run (some { ledger := { limit := some 1 } })
    Samples.documents_fresh Samples.documents_distinct
  have failed :
      (Samples.run.build (some ({ ledger := { limit := some 1 } } : MemoryManager))).result =
        .error (.refused
          (.persistence (.internal "injected failure after 1 allocation headers"))) := by
    decide +kernel
  obtain ⟨error, refused, excuses⟩ := safe _ failed
  exact ⟨Samples.documents_fresh, Samples.documents_distinct, error, refused ▸ failed,
    Failure.refused.inj refused ▸ rfl, excuses⟩

end Run
end Settlement
