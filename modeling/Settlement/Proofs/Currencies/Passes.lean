import Settlement.Proofs.Currencies.Steps

/-!
# Passes in a currency

The steps of a pass over the documents in a currency are those steps of the pass over all
documents that are taken there.  Only where nothing in the currency may pay they are fewer: then
the pass leaves out its leftovers too, which stay open in any case.
-/

namespace Settlement

/-- Steps, or in place of no steps at all only leftovers. -/
inductive Step.UpToLeftovers (steps : List Step) : List Step → Prop where
  | same : UpToLeftovers steps steps
  | leftovers (no_steps : steps = []) (payables : List Nat) :
      UpToLeftovers steps (payables.map Step.leftover)

/-! ## Rows of steps -/

/-- The steps that pair a payable with documents, and what is left of it after the last. -/
def Step.row (kind : CandidateKind) (means : List Means) (payable : Nat) : List Step :=
  means.map (pair kind payable) ++ [leftover payable]

/-- Pairings in rows, one for each payable.  Where nothing may pay, the rows are only leftovers. -/
theorem Step.rows_pairAll (kind : CandidateKind) (payables : List Nat) (means : List Means) :
    UpToLeftovers (pairAll kind payables means) (payables.flatMap (row kind means)) := by
  cases means with
  | nil =>
      have rows_eq : payables.flatMap (row kind []) = payables.map leftover :=
        List.map_eq_flatMap.symm
      exact rows_eq ▸ .leftovers rfl payables
  | cons first rest => exact .same

/-- A row of steps with one document, as they are read in the part. -/
theorem filterMap_row {α β γ δ : Type} {make : α → γ} {make' : δ → β → Step}
    {read : γ → Option Step} {place : Option δ} {find : α → Option β}
    (reads : ∀ entry, read (make entry) = Option.map₂ make' place (find entry))
    (entries : List α) :
    (entries.map make).filterMap read =
      (place.map fun found => (entries.filterMap find).map (make' found)).getD [] := by
  rw [List.filterMap_map]
  cases place with
  | none =>
      have nothing : read ∘ make = fun _ => none := funext reads
      rw [nothing, List.filterMap_none]
      rfl
  | some found =>
      have read_eq : read ∘ make = fun entry => (find entry).map (make' found) := funext reads
      rw [read_eq, ← List.map_filterMap]
      rfl

/-- Rows of steps, one for each document, as they are read in the part. -/
theorem filterMap_rows {α β : Type} {rows : Nat → List α} {rows' : Nat → List β}
    {place : Nat → Option Nat} {read : α → Option β}
    (row : ∀ index, (rows index).filterMap read = ((place index).map rows').getD [])
    (indices : List Nat) :
    (indices.flatMap rows).filterMap read = (indices.filterMap place).flatMap rows' := by
  induction indices with
  | nil => rfl
  | cons index rest ih =>
      rw [List.flatMap_cons, List.filterMap_append, row, ih]
      cases place_eq : place index with
      | none =>
          rw [List.filterMap_cons_none place_eq]
          rfl
      | some position =>
          rw [List.filterMap_cons_some place_eq, List.flatMap_cons]
          rfl

namespace Documents

variable (documents : Documents) (currency : Currency)

theorem step?_pair (kind : CandidateKind) (payable : Nat) (means : Means) :
    documents.step? currency (.pair kind payable means) =
      Option.map₂ (Step.pair kind) (documents.payablePosition? currency payable)
        (documents.means? currency means) := rfl

theorem step?_reverse (inbound outbound : Nat) :
    documents.step? currency (.reverse inbound outbound) =
      Option.map₂ Step.reverse (documents.paymentPosition? currency inbound)
        (documents.paymentPosition? currency outbound) := rfl

/-- What is left in the part of the steps that pair documents. -/
theorem filterMap_pairAll (kind : CandidateKind) (payables : List Nat) {means : List Means}
    (some_means : means ≠ []) :
    (Step.pairAll kind payables means).filterMap (documents.step? currency) =
      (payables.filterMap (documents.payablePosition? currency)).flatMap
        (Step.row kind (means.filterMap (documents.means? currency))) := by
  rw [Step.pairAll, if_neg (by simp [some_means])]
  refine filterMap_rows (fun index => ?_) payables
  rw [List.filterMap_append, filterMap_row (documents.step?_pair currency kind index)]
  cases place_eq : documents.payablePosition? currency index with
  | none => simp [step?, place_eq]
  | some position => simp [step?, place_eq, Step.row]

theorem filterMap_reverseAll (inbound outbound : List Nat) :
    (Step.reverseAll inbound outbound).filterMap (documents.step? currency) =
      Step.reverseAll (inbound.filterMap (documents.paymentPosition? currency))
        (outbound.filterMap (documents.paymentPosition? currency)) :=
  filterMap_rows
    (fun received => filterMap_row (documents.step?_reverse currency received) outbound) inbound

/-- The steps that pair documents in the currency are taken in the part. -/
theorem taken_pairAll (kind : CandidateKind) (payables : List Nat) (means : List Means) :
    Step.UpToLeftovers (Step.pairAll kind (payables.filterMap (documents.payablePosition? currency))
        (means.filterMap (documents.means? currency)))
      ((Step.pairAll kind payables means).filterMap (documents.step? currency)) := by
  cases means_eq : means with
  | nil => exact .same
  | cons first rest =>
      rw [← means_eq, documents.filterMap_pairAll currency kind payables (by simp [means_eq])]
      exact Step.rows_pairAll kind _ _

theorem filterMap_payables (property : Payable → Bool) :
    (places property documents.payables).filterMap (documents.payablePosition? currency) =
      places property (documents.only currency).payables :=
  (places_filter property _ documents.payables).symm

theorem filterMap_payments (property : Payment → Bool) :
    (places property documents.payments).filterMap (documents.paymentPosition? currency) =
      places property (documents.only currency).payments :=
  (places_filter property _ documents.payments).symm

theorem filterMap_range_payables :
    (List.range documents.payables.length).filterMap (documents.payablePosition? currency) =
      List.range (documents.only currency).payables.length := by
  rw [← places_true, documents.filterMap_payables, places_true]

/-- Documents that act as payments are read at their positions. -/
theorem filterMap_means {make : Nat → Means} {place : Nat → Option Nat}
    (reads : ∀ index, documents.means? currency (make index) = (place index).map make)
    (indices : List Nat) :
    (indices.map make).filterMap (documents.means? currency) =
      (indices.filterMap place).map make := by
  rw [List.filterMap_map, List.map_filterMap]
  exact congrArg (List.filterMap · indices) (funext reads)

theorem filterMap_allMeans :
    documents.means.filterMap (documents.means? currency) = (documents.only currency).means := by
  rw [Documents.means, documents.filterMap_means currency fun _ => rfl, ← places_true,
    documents.filterMap_payments, places_true, Documents.means]

theorem taken_steps (pass : Pass) :
    Step.UpToLeftovers (pass.steps (documents.only currency))
      ((pass.steps documents).filterMap (documents.step? currency)) := by
  cases pass with
  | creditMemos =>
      rw [Pass.steps, Pass.steps, ← documents.filterMap_payables, ← documents.filterMap_payables,
        ← documents.filterMap_means currency fun _ => rfl]
      exact documents.taken_pairAll currency _ _ _
  | compensation =>
      rw [Pass.steps, Pass.steps, ← documents.filterMap_payables, ← documents.filterMap_payables,
        ← documents.filterMap_means currency fun _ => rfl]
      exact documents.taken_pairAll currency _ _ _
  | payments =>
      rw [Pass.steps, Pass.steps, ← documents.filterMap_range_payables,
        ← documents.filterMap_allMeans]
      exact documents.taken_pairAll currency _ _ _
  | reversals =>
      rw [Pass.steps, Pass.steps, documents.filterMap_reverseAll, documents.filterMap_payments,
        documents.filterMap_payments]
      exact .same
  | remainders =>
      have reads : (documents.step? currency) ∘ Step.remainder = fun index =>
          (documents.payablePosition? currency index).map Step.remainder := rfl
      rw [Pass.steps, Pass.steps, List.filterMap_map, reads, ← List.map_filterMap,
        documents.filterMap_range_payables]
      exact .same

end Documents

/-! ## Passes -/

namespace Progress

variable {start : Documents} {currency : Currency} {whole part : Progress}

theorem runAll_leftovers (payables : List Nat) (progress : Progress) :
    (Step.runAll .leaveOpen (payables.map .leftover) progress).1 = progress := by
  induction payables with
  | nil => rfl
  | cons payable rest ih =>
      refine holds_proceed (· = progress) (settleLeftover_progress payable progress) ?_
      rintro _ rfl
      exact ih

/-- Leftovers make no difference where they stay open. -/
theorem runAll_upToLeftovers {steps taken : List Step} (covered : Step.UpToLeftovers steps taken)
    (ended : (Step.runAll .leaveOpen taken part).2 = none) :
    Step.runAll .leaveOpen taken part = Step.runAll .leaveOpen steps part := by
  cases covered with
  | same => rfl
  | leftovers no_steps payables =>
      rw [no_steps]
      exact Prod.ext (runAll_leftovers payables part) ended

/-- Which steps are taken in the part does not depend on balances. -/
theorem Mirrors.step?_eq (mirrors : whole.Mirrors start currency part) :
    start.step? currency = whole.documents.step? currency := by
  have payables := funext mirrors.documents.payablePosition_eq
  have payments := funext mirrors.documents.paymentPosition_eq
  have means : start.means? currency = whole.documents.means? currency := by
    funext means
    cases means <;> simp only [Documents.means?, payables, payments]
  funext step
  cases step <;> simp only [Documents.step?, payables, payments, means]

/-- Where a pass over all documents comes to its end, the one over the part does too. -/
theorem Mirrors.pass (mirrors : whole.Mirrors start currency part) (single : start.SingleCurrency)
    (pass : Pass) (ended : (pass.run .leaveOpen whole).2 = none) :
    SameAdvance (Mirrors start currency) (pass.run .leaveOpen whole)
      (pass.run .leaveOpen part) := by
  obtain ⟨steps_ended, -⟩ := proceed_ended ended
  have taken := mirrors.runAll single (pass.steps whole.documents) steps_ended
  have part_ended := taken.failure?_eq.symm.trans steps_ended
  have part_steps := whole.documents.taken_steps currency pass
  rw [← mirrors.step?_eq, ← mirrors.documents.part_eq] at part_steps
  rw [runAll_upToLeftovers part_steps part_ended] at taken
  apply taken.proceed
  intro after after' after_mirrors
  -- What a pass reports is neither a document nor a candidate.
  split <;> split <;>
    exact ⟨⟨after_mirrors.documents, after_mirrors.candidates, after_mirrors.named⟩, rfl⟩

theorem Mirrors.passes (mirrors : whole.Mirrors start currency part)
    (single : start.SingleCurrency) (passes : List Pass)
    (ended : (Pass.runAll .leaveOpen passes whole).2 = none) :
    SameAdvance (Mirrors start currency) (Pass.runAll .leaveOpen passes whole)
      (Pass.runAll .leaveOpen passes part) := by
  induction passes generalizing whole part with
  | nil => exact ⟨mirrors, rfl⟩
  | cons pass rest ih =>
      obtain ⟨pass_ended, rest_eq⟩ := proceed_ended ended
      have taken := mirrors.pass single pass pass_ended
      have part_ended := taken.failure?_eq.symm.trans pass_ended
      rw [Pass.runAll, rest_eq] at ended ⊢
      rw [Pass.runAll, proceed_of_ended part_ended]
      exact ih taken.progress ended

end Progress

/-- Where a settlement of all documents comes to its end, the one of the documents in a currency
does too, if there are any. -/
theorem Documents.SingleCurrency.settle {documents : Documents} {currency : Currency}
    {settings : Settings} (single : documents.SingleCurrency)
    (leaves_open : settings.leftover = .leaveOpen)
    (unguarded : settings.onlyOneVendorDocument = false)
    (occurs : (documents.only currency).isEmpty = false)
    (ended : (documents.settle settings).2 = none) :
    Progress.SameAdvance (Progress.Mirrors documents currency) (documents.settle settings)
      ((documents.only currency).settle settings) := by
  have part_checked : (documents.only currency).check settings = .ok () := by
    rw [check, occurs, unguarded]
    rfl
  unfold Documents.settle at ended ⊢
  rw [part_checked]
  split at ended
  · cases ended
  · rw [leaves_open] at ended ⊢
    have mirrors : Progress.Mirrors documents currency { documents }
        { documents := documents.only currency } :=
      ⟨.refl documents currency, rfl, fun candidate mem => absurd mem List.not_mem_nil⟩
    exact mirrors.passes single settings.passes ended

end Settlement
