import Settlement.Proofs.Exact.Builds
import Settlement.Proofs.Store.Managers

/-!
# Dry runs preview builds

A dry run leaves the documents as a build of the same run would.  What stops it stops the build,
and what it returns says how the build goes on: documents that stay open stop a strict one,
without a candidate there is nothing to book, and otherwise the same candidates are booked or
booking them fails.
-/

namespace Settlement

/-- Why candidates that have been settled are not booked. -/
inductive AllocationError.OfBooking : AllocationError → Prop where
  | configuration (text : String) : OfBooking (.configuration text)
  | unsupportedPair (payable : Reference) (payment : Option Reference) :
      OfBooking (.unsupportedPair payable payment)
  | persistence (cause : StoreError) : OfBooking (.persistence cause)

theorem AllocationError.ofBooking_of_stage {error : AllocationError}
    (drawn : error.stage = .headers) : error.OfBooking := by
  cases error with
  | configuration text => exact .configuration text
  | unsupportedPair payable payment => exact .unsupportedPair payable payment
  | _ => exact Stage.noConfusion drawn

/-- How a build ends that is not dry, by what a dry run of it has come to.  Both are given the
manager as it is `before`. -/
inductive Build.Realizes {τ : Type} (before : Option τ) (build : Build τ) :
    Except Failure RunResult → Prop where
  /-- What has stopped the dry run stops the build. -/
  | stopped {failure : Failure} (result_eq : build.result = .error failure)
      (untouched : build.manager = before) : Realizes before build (.error failure)
  /-- Documents that the dry run has found open stop the build. -/
  | leftOpen {candidates : List Candidate} {documents : OpenDocuments}
      (result_eq : build.result = .error (.refused documents.error))
      (untouched : build.manager = before) :
      Realizes before build (.ok ⟨candidates, .failed documents, []⟩)
  /-- There is nothing to book. -/
  | nothing (result_eq : build.result = .ok ⟨[], .passed, []⟩)
      (untouched : build.manager = before) : Realizes before build (.ok ⟨[], .passed, []⟩)
  /-- The candidates are booked. -/
  | booked {candidates : List Candidate} (some_candidates : candidates ≠ [])
      (allocations : List AllocationId)
      (result_eq : build.result = .ok ⟨candidates, .passed, allocations⟩) :
      Realizes before build (.ok ⟨candidates, .passed, []⟩)
  /-- The candidates cannot be booked. -/
  | unbooked {candidates : List Candidate} (some_candidates : candidates ≠ [])
      {error : AllocationError} (booking : error.OfBooking)
      (result_eq : build.result = .error (.refused error)) :
      Realizes before build (.ok ⟨candidates, .passed, []⟩)

namespace Run

/-- The run as a dry one. -/
def dry (run : Run) : Run := { run with dryRun := true }

/-- The run as one that books what it settles. -/
def wet (run : Run) : Run := { run with dryRun := false }

variable {τ : Type} [TransactionManager τ] {run : Run}

theorem ofBooking_bookUnlessDry [LawfulManager τ] (run : Run) (candidates : List Candidate)
    (manager : Option τ) :
    FailsOnly AllocationError.OfBooking (run.bookUnlessDry candidates manager).1 := by
  have drawn : FailsOnly AllocationError.OfBooking (run.headers candidates) := by
    refine run.failsOnly_headers AllocationError.OfBooking.configuration ?_
    intro candidate mem error failed
    exact AllocationError.ofBooking_of_stage (failsOnly_linesFor candidate error failed)
  exact failsOnly_bookUnlessDry manager drawn AllocationError.OfBooking.configuration
    AllocationError.OfBooking.persistence

/-- A dry run that has settled its documents returns what it has settled and its verdict. -/
theorem finish_dry (run : Run) (dry : run.dryRun = true) (progress : Progress) (events : List Event)
    (manager : Option τ) :
    (run.finish progress events manager).result =
        .ok ⟨progress.candidates, run.verdict, []⟩ ∧
      (run.finish progress events manager).manager = manager := by
  have skipped : run.bookUnlessDry progress.candidates manager = (.ok [], manager) := by
    rw [bookUnlessDry, dry, Bool.or_true, if_pos rfl]
  rw [finish, raiseUnlessDry, if_pos dry, skipped]
  exact ⟨rfl, rfl⟩

/-- A build that has settled its documents goes on as its candidates and its verdict say. -/
theorem finish_realizes [LawfulManager τ] (wet : run.dryRun = false) (progress : Progress)
    (events : List Event) (manager : Option τ) :
    (run.finish progress events manager).Realizes manager
      (.ok ⟨progress.candidates, run.verdict, []⟩) := by
  have booking := run.ofBooking_bookUnlessDry progress.candidates manager
  rw [finish, raiseUnlessDry, if_neg (Bool.eq_false_iff.mp wet)]
  cases run.verdict with
  | failed documents => exact .leftOpen rfl rfl
  | passed =>
      dsimp only [Verdict.raise]
      cases candidates_eq : progress.candidates with
      | nil => exact .nothing rfl rfl
      | cons candidate rest =>
          have some_candidates : candidate :: rest ≠ [] := List.cons_ne_nil _ _
          rw [candidates_eq] at booking
          generalize run.bookUnlessDry (candidate :: rest) manager = booked at booking ⊢
          rcases booked with ⟨error | allocations, after⟩
          · exact .unbooked some_candidates (booking error rfl) rfl
          · exact .booked some_candidates allocations rfl

/-- A dry run is an exact preview: it leaves the same documents as the build of the run that is
not dry, leaves the manager alone, and what it comes to says how that build ends. -/
theorem build_previews [LawfulManager τ] (run : Run) (manager : Option τ) :
    (run.wet.build manager).run.documents = (run.dry.build manager).run.documents ∧
      (run.dry.build manager).manager = manager ∧
      (run.wet.build manager).Realizes manager (run.dry.build manager).result := by
  refine ⟨?_, ?_⟩
  · rw [run_build, run_build]
    rfl
  cases built : run.built with
  | true =>
      have preview_eq : run.dry.build manager = _ := build_of_built manager built
      have build_eq : run.wet.build manager = _ := build_of_built manager built
      rw [preview_eq, build_eq]
      exact ⟨rfl, .stopped rfl rfl⟩
  | false =>
      have preview_eq : run.dry.build manager = _ := build_of_unbuilt manager built
      have build_eq : run.wet.build manager = _ := build_of_unbuilt manager built
      rw [preview_eq, build_eq, buildFresh, buildFresh]
      -- Settling does not know whether the run is dry.
      have same : run.wet.documents.settle run.wet.settings =
          run.dry.documents.settle run.dry.settings := rfl
      rw [same]
      rcases run.dry.documents.settle run.dry.settings with ⟨progress, _ | failure⟩
      · dsimp only
        obtain ⟨result_eq, untouched⟩ := finish_dry
          { run.dry with documents := progress.documents, built := true } rfl progress
          (run.dry.opening :: progress.events) manager
        rw [result_eq]
        exact ⟨untouched, finish_realizes rfl progress _ manager⟩
      · exact ⟨rfl, .stopped rfl rfl⟩

end Run

/-- A manager whose ledger fails at the second header. -/
def Samples.failingManager : MemoryManager := { ledger := { limit := some 1 } }

/-- A dry run over the samples shows five candidates, and a ledger that fails keeps the build from
booking them. -/
theorem Run.build_previews_failing :
    LawfulManager MemoryManager ∧
      (Samples.run.dry.build (some Samples.failingManager)).result.map (·.candidates.length) =
        .ok 5 ∧
      (Samples.run.wet.build (some Samples.failingManager)).result =
        .error (.refused
          (.persistence (.internal "injected failure after 1 allocation headers"))) ∧
      (Samples.run.wet.build (some Samples.failingManager)).run.documents =
        (Samples.run.dry.build (some Samples.failingManager)).run.documents ∧
      (Samples.run.dry.build (some Samples.failingManager)).manager =
        some Samples.failingManager ∧
      (Samples.run.wet.build (some Samples.failingManager)).Realizes
        (some Samples.failingManager)
        (Samples.run.dry.build (some Samples.failingManager)).result :=
  ⟨inferInstance, by decide +kernel, by decide +kernel,
    build_previews Samples.run (some Samples.failingManager)⟩

end Settlement
