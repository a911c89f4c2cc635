import Settlement.Run.Basic

/-!
# What refuses a build

Every error comes from one stage of a build.  Documents are matched without a store, without dates
and without headers, so matching stops at its guards or at a candidate that cannot be made, or at
a fault; the verdict and the headers have errors of their own.
-/

namespace Settlement

/-- The stages of a build that can refuse it. -/
inductive Stage where
  /-- Before anything is matched. -/
  | guards
  /-- Making a candidate. -/
  | candidates
  /-- Asking whether the documents came out even. -/
  | verdict
  /-- Drawing up headers. -/
  | headers
  /-- Booking them. -/
  | store
  deriving DecidableEq, Repr

/-- The stage that an error comes from. -/
def AllocationError.stage : AllocationError → Stage
  | alreadyBuilt | noDocuments | multipleVendorDocuments _ _ => .guards
  | sameDocument _ | missingPayment _ | overUnderCurrency _ _ | invalidDocument _ | money _ =>
      .candidates
  | payablesNotAllocated _ | paymentsNotAllocated _ => .verdict
  | configuration _ | unsupportedPair _ _ => .headers
  | persistence _ => .store

/-- A fault, or an error of the guards or of a candidate. -/
def Failure.OfMatching : Failure → Prop
  | .refused error => error.stage = .guards ∨ error.stage = .candidates
  | .broken _ => True

/-- A fault, or an error of a candidate. -/
def Failure.OfCandidates : Failure → Prop
  | .refused error => error.stage = .candidates
  | .broken _ => True

theorem Failure.OfCandidates.ofMatching {failure : Failure} (unmade : failure.OfCandidates) :
    failure.OfMatching := by
  cases failure with
  | refused error => exact .inr unmade
  | broken fault => exact trivial

/-- All errors of a computation have a property. -/
def FailsOnly {ε α : Type} (property : ε → Prop) (computed : Except ε α) : Prop :=
  ∀ error, computed = .error error → property error

section

variable {ε α β : Type} {property : ε → Prop}

theorem failsOnly_ok (value : α) : FailsOnly property (.ok value : Except ε α) := by
  intro error failed
  cases failed

theorem failsOnly_error {error : ε} (holds : property error) :
    FailsOnly property (.error error : Except ε α) := by
  intro other failed
  cases failed
  exact holds

theorem FailsOnly.bind {computed : Except ε α} {next : α → Except ε β}
    (first : FailsOnly property computed) (rest : ∀ value, FailsOnly property (next value)) :
    FailsOnly property (computed >>= next) := by
  cases computed with
  | error error => exact failsOnly_error (first error rfl)
  | ok value => exact rest value

theorem FailsOnly.map {computed : Except ε α} (change : α → β)
    (fails : FailsOnly property computed) : FailsOnly property (change <$> computed) := by
  cases computed with
  | error error => exact failsOnly_error (fails error rfl)
  | ok value => exact failsOnly_ok (change value)

end

theorem failsOnly_orBroken {α : Type} (computed : Except Fault α) :
    FailsOnly Failure.OfCandidates (orBroken computed) := by
  cases computed with
  | error fault => exact failsOnly_error trivial
  | ok value => exact failsOnly_ok value

theorem failsOnly_orRefused {α : Type} {computed : Except AllocationError α}
    (fails : FailsOnly (·.stage = .candidates) computed) :
    FailsOnly Failure.OfCandidates (orRefused computed) := by
  cases computed with
  | error error => exact failsOnly_error (fails error rfl)
  | ok value => exact failsOnly_ok value

/-! ## Proposals -/

namespace Candidate.Draft

theorem failsOnly_required {α : Type} (part : Option α) (name : String) :
    FailsOnly (·.stage = .candidates) (required part name) := by
  cases part with
  | none => exact failsOnly_error rfl
  | some value => exact failsOnly_ok value

theorem failsOnly_checkSides (payable : Reference) (payment : Option Reference)
    (amounts : Amounts) :
    FailsOnly (·.stage = .candidates) (checkSides payable payment amounts) := by
  unfold checkSides
  split
  · split
    · exact failsOnly_error rfl
    · exact failsOnly_ok ()
  · split
    · exact failsOnly_ok ()
    · exact failsOnly_error rfl

theorem failsOnly_checkOverUnder (currency : Currency) (given : Option Money) :
    FailsOnly (·.stage = .candidates) (checkOverUnder currency given) := by
  unfold checkOverUnder
  dsimp only
  split
  · exact failsOnly_ok _
  · exact failsOnly_error rfl

theorem failsOnly_complete (draft : Draft) :
    FailsOnly (·.stage = .candidates) draft.complete := by
  apply (failsOnly_required _ _).bind
  intro organization
  apply (failsOnly_required _ _).bind
  intro payable
  apply (failsOnly_required _ _).bind
  intro amounts
  apply (failsOnly_checkSides _ _ _).bind
  rintro ⟨⟩
  apply (failsOnly_checkOverUnder _ _).bind
  intro payableOverUnder
  apply (failsOnly_checkOverUnder _ _).bind
  exact fun paymentOverUnder => failsOnly_ok _

end Candidate.Draft

namespace Documents

variable (documents : Documents)

theorem failsOnly_pairing (kind : CandidateKind) (index : Nat) (means : Means) :
    FailsOnly Failure.OfCandidates (documents.pairing kind index means) := by
  apply (failsOnly_orBroken _).bind
  intro payable
  split
  · exact failsOnly_ok none
  apply (failsOnly_orBroken _).bind
  intro view
  split
  · exact failsOnly_ok none
  apply (failsOnly_orBroken _).bind
  intro amounts
  apply (failsOnly_orBroken _).bind
  intro payableOverUnder
  apply (failsOnly_orBroken _).bind
  intro paymentOverUnder
  apply (failsOnly_orRefused (Candidate.Draft.failsOnly_complete _)).bind
  exact fun candidate => failsOnly_ok _

theorem failsOnly_concession (index : Nat) (amounts : Amounts) :
    FailsOnly Failure.OfCandidates (documents.concession index amounts) := by
  apply (failsOnly_orBroken _).bind
  intro payable
  apply (failsOnly_orBroken _).bind
  intro payableOverUnder
  apply (failsOnly_orRefused (Candidate.Draft.failsOnly_complete _)).bind
  exact fun candidate => failsOnly_ok _

theorem failsOnly_remainder (index : Nat) :
    FailsOnly Failure.OfCandidates (documents.remainder index) := by
  apply (failsOnly_orBroken _).bind
  intro payable
  dsimp only
  split
  · exact failsOnly_ok none
  apply (failsOnly_concession documents index _).bind
  exact fun proposal => failsOnly_ok _

theorem failsOnly_reversal (inbound outbound : Nat) :
    FailsOnly Failure.OfCandidates (documents.reversal inbound outbound) := by
  apply (failsOnly_orBroken _).bind
  intro received
  apply (failsOnly_orBroken _).bind
  intro made
  split
  · exact failsOnly_ok none
  split
  · exact failsOnly_ok none
  apply (failsOnly_orBroken _).bind
  intro amount
  apply (failsOnly_orBroken _).bind
  intro payableOverUnder
  apply (failsOnly_orBroken _).bind
  intro paymentOverUnder
  apply (failsOnly_orRefused (Candidate.Draft.failsOnly_complete _)).bind
  exact fun candidate => failsOnly_ok _

end Documents

/-! ## Whole settlements -/

namespace Progress

/-- An advance stops, if at all, at a failure of matching. -/
def StopsAtMatching (advance : Advance) : Prop :=
  ∀ failure, advance.2 = some failure → failure.OfMatching

/-- An advance stops, if at all, at a candidate or at a fault. -/
def StopsAtCandidates (advance : Advance) : Prop :=
  ∀ failure, advance.2 = some failure → failure.OfCandidates

theorem stopsAtCandidates_none (progress : Progress) : StopsAtCandidates (progress, none) := by
  intro failure stopped
  cases stopped

theorem StopsAtCandidates.proceed {advance : Advance} {next : Progress → Advance}
    (first : StopsAtCandidates advance) (rest : ∀ progress, StopsAtCandidates (next progress)) :
    StopsAtCandidates (proceed advance next) := by
  obtain ⟨progress, failure?⟩ := advance
  cases failure? with
  | none => exact rest progress
  | some failure => exact first

variable (progress : Progress)

theorem stopsAtCandidates_change (attempt : Attempt Documents) :
    StopsAtCandidates (progress.change attempt) := by
  intro failure stopped
  obtain ⟨fault, -, rfl⟩ := Option.map_eq_some_iff.mp stopped
  trivial

theorem stopsAtCandidates_settle {proposed : Except Failure (Option Proposal)}
    (fails : FailsOnly Failure.OfCandidates proposed) :
    StopsAtCandidates (progress.settle proposed) := by
  match proposed, fails with
  | .ok none, _ => exact stopsAtCandidates_none progress
  | .ok (some proposal), _ =>
      apply (stopsAtCandidates_change _ _).proceed
      exact fun _ => stopsAtCandidates_none _
  | .error failure, fails =>
      intro other stopped
      cases stopped
      exact fails failure rfl

theorem stopsAtCandidates_settleLeftover (policy : LeftoverPolicy) (index : Nat) :
    StopsAtCandidates (progress.settleLeftover policy index) := by
  unfold settleLeftover
  split
  · intro failure stopped
    cases stopped
    trivial
  split
  · exact stopsAtCandidates_none progress
  split
  · exact stopsAtCandidates_none progress
  apply (stopsAtCandidates_change _ _).proceed
  intro moved
  apply stopsAtCandidates_settle
  exact (Documents.failsOnly_concession _ _ _).map some

end Progress

open Progress

theorem Step.stopsAtCandidates_run (policy : LeftoverPolicy) (progress : Progress) (step : Step) :
    StopsAtCandidates (step.run policy progress) := by
  cases step with
  | pair kind payable means =>
      exact stopsAtCandidates_settle _ (Documents.failsOnly_pairing _ _ _ _)
  | leftover payable => exact stopsAtCandidates_settleLeftover _ _ _
  | reverse inbound outbound =>
      exact stopsAtCandidates_settle _ (Documents.failsOnly_reversal _ _ _)
  | remainder payable => exact stopsAtCandidates_settle _ (Documents.failsOnly_remainder _ _)

theorem Step.stopsAtCandidates_runAll (policy : LeftoverPolicy) (steps : List Step)
    (progress : Progress) : StopsAtCandidates (runAll policy steps progress) := by
  induction steps generalizing progress with
  | nil => exact stopsAtCandidates_none progress
  | cons step rest ih => exact (step.stopsAtCandidates_run policy progress).proceed ih

theorem Pass.stopsAtCandidates_run (policy : LeftoverPolicy) (pass : Pass) (progress : Progress) :
    StopsAtCandidates (pass.run policy progress) := by
  apply (Step.stopsAtCandidates_runAll policy _ progress).proceed
  intro after
  split
  · exact stopsAtCandidates_none _
  · exact stopsAtCandidates_none _

theorem Pass.stopsAtCandidates_runAll (policy : LeftoverPolicy) (passes : List Pass)
    (progress : Progress) : StopsAtCandidates (runAll policy passes progress) := by
  induction passes generalizing progress with
  | nil => exact stopsAtCandidates_none progress
  | cons pass rest ih => exact (pass.stopsAtCandidates_run policy progress).proceed ih

theorem Documents.failsOnly_check (settings : Settings) (documents : Documents) :
    FailsOnly (·.stage = .guards) (documents.check settings) := by
  unfold check checkVendorDocuments
  split
  · exact failsOnly_error rfl
  split
  · split
    · exact failsOnly_error rfl
    · exact failsOnly_ok ()
  · exact failsOnly_ok ()

/-- Whatever the documents are, a settlement never stops at an error of booking. -/
theorem Documents.stopsAtMatching_settle (settings : Settings) (documents : Documents) :
    StopsAtMatching (documents.settle settings) := by
  unfold settle
  cases checked : documents.check settings with
  | ok passed =>
      intro failure stopped
      exact (Pass.stopsAtCandidates_runAll _ _ _ failure stopped).ofMatching
  | error error =>
      intro failure stopped
      cases stopped
      exact .inl (documents.failsOnly_check settings error checked)

/-- A settlement that stops at an error of the guards has been refused before its first pass. -/
theorem Documents.check_of_stopped {settings : Settings} {documents : Documents}
    {error : AllocationError} (stopped : (documents.settle settings).2 = some (.refused error))
    (guarded : error.stage = .guards) : documents.check settings = .error error := by
  unfold settle at stopped
  cases checked : documents.check settings with
  | error found =>
      rw [checked] at stopped
      cases stopped
      rfl
  | ok passed =>
      rw [checked] at stopped
      have unmade : error.stage = .candidates :=
        Pass.stopsAtCandidates_runAll _ _ _ _ stopped
      exact Stage.noConfusion (guarded.symm.trans unmade)

/-! ## Verdict and headers -/

namespace Run

theorem failsOnly_raiseUnlessDry (run : Run) :
    FailsOnly (·.stage = .verdict) run.raiseUnlessDry := by
  unfold raiseUnlessDry
  split
  · exact failsOnly_ok ()
  rcases run.verdict with _ | (_ | _)
  · exact failsOnly_ok ()
  · exact failsOnly_error rfl
  · exact failsOnly_error rfl

theorem failsOnly_configured {α : Type} (part : Option α) (problem : String) :
    FailsOnly (∃ text, · = .configuration text) (configured part problem) := by
  cases part with
  | none => exact failsOnly_error ⟨problem, rfl⟩
  | some value => exact failsOnly_ok value

/-- Headers need dates and lines for their candidates. -/
theorem failsOnly_headers {property : AllocationError → Prop} (run : Run)
    {candidates : List Candidate} (undated : ∀ text, property (.configuration text))
    (unlined : ∀ candidate ∈ candidates, FailsOnly property (Header.linesFor candidate)) :
    FailsOnly property (run.headers candidates) := by
  have dated : ∀ (date : Option Date) (problem : String),
      FailsOnly property (configured date problem) := by
    intro date problem error failed
    obtain ⟨text, rfl⟩ := failsOnly_configured date problem error failed
    exact undated text
  apply (dated _ _).bind
  intro transactionDate
  apply (dated _ _).bind
  intro accountingDate
  induction candidates with
  | nil => exact failsOnly_ok []
  | cons candidate rest ih =>
      rw [List.mapM_cons]
      apply ((unlined candidate (by simp)).bind fun lines => failsOnly_ok _).bind
      intro header
      apply (ih fun other mem => unlined other (by simp [mem])).bind
      exact fun headers => failsOnly_ok _

theorem failsOnly_linesFor (candidate : Candidate) :
    FailsOnly (·.stage = .headers) (Header.linesFor candidate) := by
  unfold Header.linesFor
  split
  · exact failsOnly_ok _
  · exact failsOnly_ok _
  · exact failsOnly_ok _
  · exact failsOnly_ok _
  · exact failsOnly_error rfl

end Run
end Settlement
