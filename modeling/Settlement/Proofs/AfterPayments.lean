import Settlement.Proofs.Currencies.Steps
import Settlement.Proofs.Exact.Fresh
import Settlement.Proofs.Exact.Runs
import Settlement.Proofs.Exact.Simulation

/-!
# After the payments

The passes after the payments match no payable with a document any more.  Their candidates are of
other kinds, and of every payable they leave to pay what they find.
-/

namespace Settlement

/-- The kinds that match a payable with a document that acts as a payment. -/
def CandidateKind.isPairing : CandidateKind → Bool
  | .invoiceToPayment | .invoiceToCreditMemo | .salesInvoiceToPurchaseInvoice => true
  | .inboundPaymentToOutboundPayment | .invoiceDiscountOrWriteOff => false

/-- A step that neither matches a payable nor moves what is left of it. -/
def Step.Late : Step → Prop
  | .reverse _ _ | .remainder _ => True
  | .pair _ _ _ | .leftover _ => False

/-- A pass after the payments. -/
def Pass.Late (pass : Pass) : Prop := pass = .reversals ∨ pass = .remainders

/-! ## What is left to pay -/

namespace Book

/-- What is left to pay of each debt, under its reference. -/
def dues (book : Book) : List (Reference × Int) :=
  book.debts.map fun debt => (debt.reference, debt.remaining.pay)

variable {policy : LeftoverPolicy} {book : Book}

theorem Deals.dues_eq {step : Step} {deal : Deal} (dealt : Deals policy book step deal)
    (late : step.Late) : deal.after.dues = book.dues := by
  cases dealt with
  | pair debt_eq source_eq debt_open source_open fits => cases late
  | leftover debt_eq debt_open moves => cases late
  | reverse received_eq made_eq received_open made_open currency_eq => rfl
  | remainder debt_eq carries =>
      rename_i index debt
      have kept : List.Forall₂ (fun before after : Debt =>
          (after.reference, after.remaining.pay) = (before.reference, before.remaining.pay))
          book.debts (book.charge index { debt.remaining with pay := 0 }).debts :=
        forall₂_modify (fun _ _ => rfl) fun _ _ => by simp
      exact forall₂_map_eq kept fun _ _ same => same

theorem late_steps (book : Book) {pass : Pass} (late : pass.Late) :
    ∀ step ∈ book.steps pass, step.Late := by
  intro step mem
  rcases late with rfl | rfl
  · obtain ⟨received, -, made, -, rfl⟩ := Step.mem_reverseAll.mp mem
    trivial
  · obtain ⟨index, -, rfl⟩ := List.mem_map.mp mem
    trivial

end Book

namespace History

variable {policy : LeftoverPolicy} {history : History}

theorem dues_runAll (sound : history.book.Sound policy) {steps : List Step}
    (placed : ∀ step ∈ steps, history.book.Placed step) (late : ∀ step ∈ steps, step.Late) :
    (history.runAll policy steps).1.book.dues = history.book.dues := by
  refine runAll_induction (motive := fun reached => reached.book.dues = history.book.dues) sound
    placed rfl ?_
  intro reached step deal mem _ _ dealt same
  exact (dealt.dues_eq (late step mem)).trans same

theorem dues_runPasses (sound : history.book.Sound policy) {passes : List Pass}
    (late : ∀ pass ∈ passes, pass.Late) :
    (history.runPasses policy passes).1.book.dues = history.book.dues := by
  induction passes generalizing history with
  | nil => rfl
  | cons pass rest ih =>
      have here := dues_runAll sound (Book.placed_steps sound pass)
        (history.book.late_steps (late pass (by simp)))
      have later := later_pass sound pass
      rw [runPasses]
      generalize history.runAll policy (history.book.steps pass) = advance at here later ⊢
      rcases advance with ⟨reached, _ | error⟩
      · exact (ih later.sound fun other mem => late other (by simp [mem])).trans here
      · exact here

end History

theorem Documents.dues_book (documents : Documents) :
    documents.book.dues =
      documents.payables.map fun payable => (payable.reference, payable.remaining.pay.ticks) := by
  rw [Book.dues, book, List.map_map]
  rfl

/-- The passes after the payments leave of every payable to pay what they find. -/
theorem Progress.dues_runPasses {policy : LeftoverPolicy} {progress : Progress}
    (exact : progress.Exact) (sound : progress.history.book.Sound policy) {passes : List Pass}
    (late : ∀ pass ∈ passes, pass.Late) :
    (Pass.runAll policy passes progress).1.documents.book.dues =
      progress.documents.book.dues := by
  have follows := passes_follow exact sound passes
  have kept := History.dues_runPasses sound late
  rw [← follows.history_eq] at kept
  exact kept

/-! ## Candidates -/

namespace Progress

variable {policy : LeftoverPolicy} {progress : Progress}

theorem pairings_run {step : Step} (late : step.Late) :
    (step.run policy progress).1.candidates.filter (·.kind.isPairing) =
      progress.candidates.filter (·.kind.isPairing) := by
  cases step with
  | pair kind payable means => cases late
  | leftover payable => cases late
  | reverse inbound outbound =>
      refine filter_settle fun proposal proposed => ?_
      obtain ⟨received, made, reverses⟩ := Documents.reversal_eq_some proposed
      rw [reverses.kind_eq, CandidateKind.isPairing]
  | remainder payable =>
      refine filter_settle fun proposal proposed => ?_
      obtain ⟨found, concedes⟩ := Documents.remainder_eq_some proposed
      rw [concedes.kind_eq, CandidateKind.isPairing]

theorem pairings_runAll {steps : List Step} (late : ∀ step ∈ steps, step.Late) :
    (Step.runAll policy steps progress).1.candidates.filter (·.kind.isPairing) =
      progress.candidates.filter (·.kind.isPairing) := by
  induction steps generalizing progress with
  | nil => rfl
  | cons step rest ih =>
      apply holds_proceed fun reached => reached.candidates.filter (·.kind.isPairing) =
        progress.candidates.filter (·.kind.isPairing)
      · exact pairings_run (late step (by simp))
      · intro reached same
        exact (ih fun other mem => late other (by simp [mem])).trans same

/-- The passes after the payments add no pairings. -/
theorem pairings_runPasses {passes : List Pass} (late : ∀ pass ∈ passes, pass.Late) :
    (Pass.runAll policy passes progress).1.candidates.filter (·.kind.isPairing) =
      progress.candidates.filter (·.kind.isPairing) := by
  induction passes generalizing progress with
  | nil => rfl
  | cons pass rest ih =>
      have steps_late := progress.documents.book.late_steps (late pass (by simp))
      rw [← progress.documents.steps_book] at steps_late
      apply holds_proceed fun reached => reached.candidates.filter (·.kind.isPairing) =
        progress.candidates.filter (·.kind.isPairing)
      · apply holds_proceed fun reached => reached.candidates.filter (·.kind.isPairing) =
          progress.candidates.filter (·.kind.isPairing)
        · exact pairings_runAll steps_late
        · intro reached same
          split <;> exact same
      · intro reached same
        exact (ih fun other mem => late other (by simp [mem])).trans same

end Progress

/-! ## Settlements up to the payments -/

namespace Settings

/-- The passes before the payments. -/
def early (settings : Settings) : List Pass :=
  [.creditMemos] ++ (if settings.compensation then [.compensation] else [])

theorem passes_eq (settings : Settings) :
    settings.passes = (settings.early ++ [.payments]) ++ [.reversals, .remainders] := by
  simp [passes, early]

theorem early_cases (settings : Settings) :
    ∀ pass ∈ settings.early, pass = .creditMemos ∨ pass = .compensation := by
  unfold early
  split <;> simp

end Settings

namespace Documents

variable {documents : Documents} {settings : Settings}

/-- How far a settlement has come after the payments. -/
def matched (settings : Settings) (documents : Documents) : Advance :=
  Pass.runAll settings.leftover (settings.early ++ [.payments]) { documents }

theorem settle_ended (ended : (documents.settle settings).2 = none) :
    (documents.matched settings).2 = none ∧
      documents.settle settings =
        Pass.runAll settings.leftover [.reversals, .remainders] (documents.matched settings).1 := by
  unfold settle at ended ⊢
  split at ended
  · cases ended
  · rw [settings.passes_eq, Pass.runAll_append] at ended ⊢
    exact Progress.proceed_ended ended

theorem Fresh.start_exact (fresh : documents.Fresh) : Progress.Exact { documents } :=
  ⟨fresh.exact, fun _ mem => absurd mem List.not_mem_nil⟩

/-- Documents are matched as their book is. -/
theorem Fresh.matched_follows (fresh : documents.Fresh) (settings : Settings) :
    Progress.Follows (documents.matched settings)
      (History.runPasses settings.leftover (settings.early ++ [.payments])
        { book := documents.book }) :=
  Progress.passes_follow fresh.start_exact (fresh.sound settings.leftover) _

theorem Fresh.later_matched (fresh : documents.Fresh) (settings : Settings) :
    (documents.matched settings).1.Exact ∧
      Book.Later settings.leftover documents.book (documents.matched settings).1.history.book :=
  Progress.later_runPasses fresh.start_exact (fresh.sound settings.leftover) _

theorem late_passes : ∀ pass ∈ [Pass.reversals, Pass.remainders], pass.Late := by
  simp [Pass.Late]

/-- After the payments, a settlement that comes to its end matches no more payables. -/
theorem settle_pairings (ended : (documents.settle settings).2 = none) :
    (documents.settle settings).1.candidates.filter (·.kind.isPairing) =
      (documents.matched settings).1.candidates.filter (·.kind.isPairing) := by
  rw [(settle_ended ended).2]
  exact Progress.pairings_runPasses late_passes

theorem settle_kind {kind : CandidateKind} (pairing : kind.isPairing = true)
    (ended : (documents.settle settings).2 = none) :
    (documents.settle settings).1.candidates.filter (·.kind == kind) =
      (documents.matched settings).1.candidates.filter (·.kind == kind) := by
  have among : ∀ candidates : List Candidate, candidates.filter (·.kind == kind) =
      (candidates.filter (·.kind.isPairing)).filter (·.kind == kind) := by
    intro candidates
    rw [List.filter_filter]
    refine List.filter_congr fun candidate _ => ?_
    by_cases same : candidate.kind = kind
    · simp [same, pairing]
    · simp [same]
  rw [among, settle_pairings ended, ← among]

/-- After the payments, a settlement that comes to its end leaves of each payable to pay what it
finds. -/
theorem Fresh.settle_dues (fresh : documents.Fresh)
    (ended : (documents.settle settings).2 = none) :
    (documents.settle settings).1.documents.book.dues =
      (documents.matched settings).1.documents.book.dues := by
  obtain ⟨reached_exact, later⟩ := fresh.later_matched settings
  rw [(settle_ended ended).2]
  exact Progress.dues_runPasses reached_exact later.sound late_passes

end Documents

end Settlement
