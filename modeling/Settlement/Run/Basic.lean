import Settlement.Matching.Pass
import Settlement.Store.Manager

/-!
# Runs

A run settles documents once: it matches them, checks that they came out even, and books one
header for each candidate in a single unit of work.  A dry run matches in the same way, but books
nothing and only reports documents that stay open.  A run that has been built is not built again.
-/

namespace Settlement

/-- A run over documents. -/
structure Run where
  /-- The documents, with balances as the build left them. -/
  documents : Documents := {}
  /-- The policies. -/
  settings : Settings := {}
  /-- Whether the run only shows what it would do. -/
  dryRun : Bool := false
  /-- The day of the transaction. -/
  transactionDate : Option Date := none
  /-- The day that it counts for in the accounts. -/
  accountingDate : Option Date := none
  /-- Whether the run has been built. -/
  built : Bool := false
  deriving DecidableEq, Repr

/-- What a build produced. -/
structure RunResult where
  /-- What was settled. -/
  candidates : List Candidate
  /-- Whether the documents came out even. -/
  verdict : Verdict
  /-- The identifiers of the booked headers. -/
  allocations : List AllocationId
  deriving DecidableEq, Repr

/-- What a build leaves behind, whatever came of it. -/
structure Build (τ : Type) where
  /-- The run, which is built now. -/
  run : Run
  /-- The transaction manager, where there is one. -/
  manager : Option τ
  /-- The allocations that were recorded on the documents, in order. -/
  postings : List Posting
  /-- What was reported, in order. -/
  events : List Event
  /-- The result, or why there is none. -/
  result : Except Failure RunResult

namespace Run

/-- A part of the configuration that booking needs. -/
def configured {α : Type} (part : Option α) (problem : String) : Except AllocationError α :=
  match part with
  | some value => .ok value
  | none => .error (.configuration problem)

/-- The headers to book for candidates. -/
def headers (run : Run) (candidates : List Candidate) : Except AllocationError (List Header) := do
  let transactionDate ← configured run.transactionDate "transaction date is not set"
  let accountingDate ← configured run.accountingDate "accounting date is not set"
  candidates.mapM (Header.ofCandidate transactionDate accountingDate)

/-- Books headers in one unit of work. -/
def bookHeaders {τ : Type} [TransactionManager τ] (headers : List Header) (manager : τ) :
    Except AllocationError (List AllocationId) × τ :=
  let (outcome, manager) := TransactionManager.runAtomically (Work.bookAll [] headers) manager
  (outcome.result.map fun () => outcome.note.getD [], manager)

/-- Books one header for each candidate, in one unit of work. -/
def book {τ : Type} [TransactionManager τ] (run : Run) (candidates : List Candidate)
    (manager : Option τ) : Except AllocationError (List AllocationId) × Option τ :=
  match run.headers candidates with
  | .error error => (.error error, manager)
  | .ok headers =>
      match manager with
      | none => (.error (.configuration "no transaction manager configured"), none)
      | some manager =>
          let (allocations, manager) := bookHeaders headers manager
          (allocations, some manager)

/-- Books what was settled; a dry run and a run without candidates book nothing. -/
def bookUnlessDry {τ : Type} [TransactionManager τ] (run : Run) (candidates : List Candidate)
    (manager : Option τ) : Except AllocationError (List AllocationId) × Option τ :=
  if candidates.isEmpty || run.dryRun then
    (.ok [], manager)
  else
    run.book candidates manager

/-- The verdict on settled documents.  Where partial allocations are allowed it is not asked. -/
def verdict (run : Run) : Verdict :=
  if run.settings.partialAllocations then .passed else .ofDocuments run.documents

/-- What a dry run reports about documents that stay open. -/
def warnings (run : Run) : List Event :=
  match run.dryRun, run.verdict with
  | true, .failed documents => [.leftOpen documents]
  | _, _ => []

/-- A failed verdict stops a run that is not dry. -/
def raiseUnlessDry (run : Run) : Except AllocationError Unit :=
  if run.dryRun then .ok () else run.verdict.raise

/-- What is left to do once the documents are settled. -/
def finish {τ : Type} [TransactionManager τ] (run : Run) (progress : Progress)
    (events : List Event) (manager : Option τ) : Build τ :=
  let events := events ++ run.warnings
  match run.raiseUnlessDry with
  | .error error => ⟨run, manager, progress.postings, events, .error (.refused error)⟩
  | .ok () =>
      match run.bookUnlessDry progress.candidates manager with
      | (.error error, manager) =>
          ⟨run, manager, progress.postings, events, .error (.refused error)⟩
      | (.ok allocations, manager) =>
          { run
            manager
            postings := progress.postings
            events := events ++
              [.built progress.candidates.length allocations.length run.verdict.isPassed]
            result := .ok ⟨progress.candidates, run.verdict, allocations⟩ }

/-- The event that every build begins with. -/
def opening (run : Run) : Event :=
  .opened run.documents.payables.length run.documents.payments.length run.dryRun

/-- Builds a run that has not been built. -/
def buildFresh {τ : Type} [TransactionManager τ] (run : Run) (manager : Option τ) : Build τ :=
  let (progress, failure?) := run.documents.settle run.settings
  let settled := { run with documents := progress.documents, built := true }
  let events := run.opening :: progress.events
  match failure? with
  | some failure => ⟨settled, manager, progress.postings, events, .error failure⟩
  | none => settled.finish progress events manager

/-- Builds a run, once. -/
def build {τ : Type} [TransactionManager τ] (run : Run) (manager : Option τ) : Build τ :=
  if run.built then
    ⟨run, manager, [], [run.opening], .error (.refused .alreadyBuilt)⟩
  else
    run.buildFresh manager

/-- Builds a run several times, one build after the other. -/
def buildTimes {τ : Type} [TransactionManager τ] :
    (times : Nat) → Run → (manager : Option τ) → List (Build τ)
  | 0, _, _ => []
  | times + 1, run, manager =>
      let first := run.build manager
      first :: buildTimes times first.run first.manager

end Run
end Settlement
