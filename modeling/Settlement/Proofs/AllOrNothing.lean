import Settlement.Proofs.Exact.Builds
import Settlement.Proofs.Refusals
import Settlement.Proofs.Store.Bookings

/-!
# All or nothing

A build books all headers of its candidates in one unit of work or none of them.  What it returns
tells which: the identifiers of all booked headers, an error of the store that has been rolled
back, or something else, and then the manager has not been touched.
-/

namespace Settlement
namespace Run

variable {run : Run} {manager : MemoryManager}

/-! ## Booking -/

/-- How booking what was settled ends with a manager in memory. -/
inductive Books (run : Run) (candidates : List Candidate) (manager : MemoryManager) :
    Except AllocationError (List AllocationId) × Option MemoryManager → Prop where
  /-- There is nothing to book. -/
  | skipped (nothing : run.dryRun = true ∨ candidates = []) :
      Books run candidates manager (.ok [], some manager)
  /-- The headers cannot be drawn up. -/
  | stopped {error : AllocationError} (undrawn : error.stage = .headers) :
      Books run candidates manager (.error error, some manager)
  /-- All headers are booked. -/
  | committed {headers : List Header} {allocations : List AllocationId} {closed : MemoryManager}
      (wet : ¬(run.dryRun = true ∨ candidates = []))
      (headers_eq : run.headers candidates = .ok headers)
      (committed : manager.Committed headers closed allocations) :
      Books run candidates manager (.ok allocations, some closed)
  /-- The store fails and nothing is booked. -/
  | rolledBack {cause : StoreError} {closed : MemoryManager}
      (rolledBack : manager.RolledBack closed) :
      Books run candidates manager (.error (.persistence cause), some closed)

/-- Booking what was settled stands as a whole, leaves no trace, or does not come to the store. -/
theorem books_bookUnlessDry (run : Run) (candidates : List Candidate) (manager : MemoryManager) :
    run.Books candidates manager (run.bookUnlessDry candidates (some manager)) := by
  unfold bookUnlessDry
  by_cases nothing : run.dryRun = true ∨ candidates = []
  · have skipped : (candidates.isEmpty || run.dryRun) = true := by
      rw [Bool.or_eq_true, List.isEmpty_iff]
      exact nothing.symm
    rw [if_pos skipped]
    exact .skipped nothing
  · have booked : ¬(candidates.isEmpty || run.dryRun) = true := by
      rw [Bool.or_eq_true, List.isEmpty_iff]
      exact fun skipped => nothing skipped.symm
    rw [if_neg booked, book]
    cases headers_eq : run.headers candidates with
    | error error =>
        have drawn : FailsOnly (·.stage = .headers) (run.headers candidates) :=
          run.failsOnly_headers (fun text => rfl) fun candidate _ => failsOnly_linesFor candidate
        exact .stopped (drawn error headers_eq)
    | ok headers =>
        obtain ⟨allocations, closed, booked_eq, committed⟩ | ⟨cause, closed, booked_eq, rolled⟩ :=
          bookHeaders_cases headers manager
        · simp only [booked_eq]
          exact .committed nothing headers_eq committed
        · simp only [booked_eq]
          exact .rolledBack rolled

/-! ## Builds -/

/-- What a build has done to a manager in memory, by what it returned. -/
def Accounts (run : Run) (before after : MemoryManager) : Except Failure RunResult → Prop
  | .ok result =>
      if run.dryRun = true ∨ result.candidates = [] then
        after = before ∧ result.allocations = []
      else
        ∃ headers, run.headers result.candidates = .ok headers ∧
          before.Committed headers after result.allocations
  | .error (.refused (.persistence _)) => before.RolledBack after
  | .error _ => after = before

/-- A failure that does not come from the store leaves the manager as it was. -/
theorem accounts_of_stopped (manager : MemoryManager) {failure : Failure}
    (elsewhere : ∀ error, failure = .refused error → error.stage ≠ .store) :
    run.Accounts manager manager (.error failure) := by
  unfold Accounts
  split
  · rename_i returned
    cases returned
  · rename_i cause failed
    exact absurd rfl (elsewhere (.persistence cause) (Except.error.inj failed))
  · rfl

theorem accounts_finish (run : Run) (progress : Progress) (events : List Event)
    (manager : MemoryManager) :
    ∃ closed, (run.finish progress events (some manager)).manager = some closed ∧
      run.Accounts manager closed (run.finish progress events (some manager)).result := by
  unfold finish
  cases raised : run.raiseUnlessDry with
  | error error =>
      refine ⟨manager, rfl, accounts_of_stopped manager ?_⟩
      rintro found ⟨⟩
      rw [run.failsOnly_raiseUnlessDry error raised]
      exact Stage.noConfusion
  | ok passed =>
      have books := run.books_bookUnlessDry progress.candidates manager
      generalize run.bookUnlessDry progress.candidates (some manager) = booking at books ⊢
      cases books with
      | skipped nothing => exact ⟨manager, rfl, (if_pos nothing).mpr ⟨rfl, rfl⟩⟩
      | stopped undrawn =>
          refine ⟨manager, rfl, accounts_of_stopped manager ?_⟩
          rintro found ⟨⟩
          rw [undrawn]
          exact Stage.noConfusion
      | committed wet headers_eq committed =>
          exact ⟨_, rfl, (if_neg wet).mpr ⟨_, headers_eq, committed⟩⟩
      | rolledBack rolledBack => exact ⟨_, rfl, rolledBack⟩

/-- With any manager in memory, a build books the headers of all of its candidates in one unit of
work that stands, or it leaves the ledger as it was. -/
theorem build_all_or_nothing (run : Run) (manager : MemoryManager) :
    ∃ closed, (run.build (some manager)).manager = some closed ∧
      run.Accounts manager closed (run.build (some manager)).result := by
  cases built : run.built with
  | true =>
      rw [build_of_built (some manager) built]
      exact ⟨manager, rfl, rfl⟩
  | false =>
      rw [build_of_unbuilt (some manager) built, buildFresh]
      have matching := run.documents.stopsAtMatching_settle run.settings
      generalize run.documents.settle run.settings = advance at matching ⊢
      rcases advance with ⟨progress, failure | failure⟩
      · exact accounts_finish _ progress _ manager
      · refine ⟨manager, rfl, accounts_of_stopped manager ?_⟩
        rintro error rfl
        rcases matching _ rfl with guarded | unmade
        · rw [guarded]
          exact Stage.noConfusion
        · rw [unmade]
          exact Stage.noConfusion

/-- A run over the samples books its five headers, with eight lines, in one unit that stands. -/
theorem build_all_or_nothing_samples :
    ∃ result headers closed,
      (Samples.run.build (some ({} : MemoryManager))).result = .ok result ∧
        Samples.run.headers result.candidates = .ok headers ∧
        (Samples.run.build (some ({} : MemoryManager))).manager = some closed ∧
        ({} : MemoryManager).Committed headers closed result.allocations ∧
        closed.ledger.entries.map (·.lines.length) = [2, 2, 1, 2, 1] := by
  obtain ⟨result, returned⟩ :
      ∃ result, (Samples.run.build (some ({} : MemoryManager))).result = .ok result :=
    exists_eq_ok (by decide +kernel)
  obtain ⟨closed, closed_eq, accounts⟩ := build_all_or_nothing Samples.run {}
  have candidates_eq := (returns_of_result returned).candidates_eq
  have wet : ¬(Samples.run.dryRun = true ∨ result.candidates = []) := by
    rw [candidates_eq, postings_build]
    decide +kernel
  rw [returned, Accounts, if_neg wet] at accounts
  obtain ⟨headers, headers_eq, committed⟩ := accounts
  have lengths_eq :
      ((Samples.run.build (some ({} : MemoryManager))).manager.map fun closed =>
        closed.ledger.entries.map (·.lines.length)) = some [2, 2, 1, 2, 1] := by
    decide +kernel
  rw [closed_eq, Option.map_some, Option.some.injEq] at lengths_eq
  exact ⟨result, headers, closed, returned, headers_eq, closed_eq, committed, lengths_eq⟩

/-- A ledger that fails at the second header keeps no trace of the first one. -/
example :
    (Samples.run.build (some ({ ledger := { limit := some 1 } } : MemoryManager))).manager.map
        (fun closed => (closed.ledger, closed.commits, closed.rollbacks)) =
      some ({ limit := some 1 }, 0, 1) := by
  decide +kernel

end Run
end Settlement
