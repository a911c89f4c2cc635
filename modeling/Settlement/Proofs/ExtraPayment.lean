import Settlement.Proofs.Additions.Passes
import Settlement.Proofs.AfterPayments
import Settlement.Proofs.Balances
import Settlement.Proofs.Exact.Accounts

/-!
# An extra payment disturbs nobody

Where leftovers stay open, a further payment at the end of the list only takes what the others
leave.  Every candidate that matches a payable stays as it is, in the same order, and those that
come in between name the new payment.  What is left to pay of a payable only shrinks.
-/

namespace Settlement

/-- The same payable, of which no larger magnitude is left to pay. -/
structure Payable.OwesNoMore (before after : Payable) : Prop where
  reference_eq : after.reference = before.reference
  abs_le : |after.remaining.pay.amount.value| ≤ |before.remaining.pay.amount.value|

namespace Documents

variable {documents : Documents} {extra : Payment} {settings : Settings}

theorem Fresh.of_withPayment (fresh : (documents.withPayment extra).Fresh) : documents.Fresh :=
  ⟨fresh.payables, fun payment mem => fresh.payments payment (List.mem_append_left _ mem)⟩

/-- Up to the payments, the settlement with the new payment has made the same candidates. -/
theorem Fresh.matched_withPayment (fresh : (documents.withPayment extra).Fresh)
    (leaves_open : settings.leftover = .leaveOpen)
    (ended : ((documents.withPayment extra).matched settings).2 = none) :
    ∃ bound, (documents.matched settings).1.Widened extra.reference documents.payments.length bound
      ((documents.withPayment extra).matched settings).1 := by
  have start : Progress.Widened extra.reference documents.payments.length 0 { documents }
      { documents := documents.withPayment extra } := ⟨widened_withPayment documents extra, rfl⟩
  have start_sound := fresh.sound .leaveOpen
  obtain ⟨reached_exact, later⟩ :=
    Progress.later_runPasses fresh.start_exact start_sound settings.early
  have taken := start.passes settings.early_cases
  rw [matched, leaves_open, Pass.runAll_append] at ended ⊢
  rw [matched, leaves_open, Pass.runAll_append]
  obtain ⟨early_ended, payments_eq⟩ := Progress.proceed_ended ended
  rw [payments_eq] at ended ⊢
  rw [Progress.proceed_of_ended (taken.failure?_eq.trans early_ended)]
  have payments_ended := (Progress.proceed_ended ended).1
  have paid := taken.progress.payments reached_exact later.sound payments_ended
  have through : Progress.SameAdvance _ (Pass.runAll .leaveOpen [.payments] _)
      (Pass.runAll .leaveOpen [.payments] _) := paid.proceed fun _ _ related => ⟨related, rfl⟩
  exact through.progress

/-- A settlement with one payment more at the end makes, apart from those that name it, the same
candidates that match payables, and leaves no more to pay of any payable. -/
theorem Fresh.settle_withPayment (fresh : (documents.withPayment extra).Fresh)
    (leaves_open : settings.leftover = .leaveOpen)
    (ended : (documents.settle settings).2 = none)
    (ended' : ((documents.withPayment extra).settle settings).2 = none) :
    (((documents.withPayment extra).settle settings).1.candidates.filter
        (·.kind.isPairing)).filter (!·.Names extra.reference) =
      ((documents.settle settings).1.candidates.filter (·.kind.isPairing)).filter
        (!·.Names extra.reference) ∧
    List.Forall₂ (fun before after : Reference × Int =>
        after.1 = before.1 ∧ Within after.2 before.2)
      (documents.settle settings).1.documents.book.dues
      ((documents.withPayment extra).settle settings).1.documents.book.dues := by
  have narrow_fresh := fresh.of_withPayment
  obtain ⟨bound, widened⟩ := fresh.matched_withPayment leaves_open (settle_ended ended').1
  rw [settle_pairings ended, settle_pairings ended', narrow_fresh.settle_dues ended,
    fresh.settle_dues ended']
  constructor
  · rw [List.filter_comm, widened.candidates, List.filter_comm]
  · rw [dues_book, dues_book, List.forall₂_map_left_iff, List.forall₂_map_right_iff]
    exact widened.documents.payables.imp fun _ _ undercuts =>
      ⟨undercuts.reference_eq, undercuts.within⟩

end Documents

/-! ## Builds -/

namespace Run

variable {τ σ : Type} [TransactionManager τ] [TransactionManager σ] {run : Run} {extra : Payment}

/-- The run with one payment more at the end. -/
def withPayment (run : Run) (extra : Payment) : Run :=
  { run with documents := run.documents.withPayment extra }

/-- The candidates of a build name documents of the run and no others. -/
theorem references_of_mem_candidates (fresh : run.documents.Fresh) {candidate : Candidate}
    (mem : candidate ∈ run.progress.candidates) :
    candidate.payable ∈ run.documents.references ∧
      ∀ reference, candidate.payment = some reference → reference ∈ run.documents.references := by
  obtain ⟨posting, posting_mem, rfl⟩ := List.mem_map.mp mem
  rw [← references_book]
  exact (progress_trail fresh).named (fresh.sound _) posting.deal (List.mem_map_of_mem posting_mem)

/-- A build names no payment that it does not know. -/
theorem not_names_of_mem_candidates (fresh : run.documents.Fresh) {reference : Reference}
    (unknown : reference ∉ run.documents.references) {candidate : Candidate}
    (mem : candidate ∈ run.progress.candidates) : candidate.Names reference = false := by
  obtain ⟨settled, paid⟩ := references_of_mem_candidates fresh mem
  rw [Candidate.Names, Candidate.Settles, Candidate.PaidWith, Bool.or_eq_false_iff,
    beq_eq_false_iff_ne, beq_eq_false_iff_ne]
  exact ⟨fun same => unknown (same ▸ settled), fun same => unknown (paid reference same)⟩

/-- Where leftovers stay open, a build with one payment more at the end makes the candidates that
match payables as before, in the same order, and besides them only such as name the new payment.
Of no payable a larger magnitude is left to pay. -/
theorem build_withPayment (run : Run) (extra : Payment) (manager : Option τ) (other : Option σ)
    {result wider : RunResult} (fresh : (run.documents.withPayment extra).Fresh)
    (distinct : (run.documents.withPayment extra).references.Nodup)
    (leaves_open : run.settings.leftover = .leaveOpen)
    (returned : (run.build manager).result = .ok result)
    (returned' : ((run.withPayment extra).build other).result = .ok wider) :
    wider.candidates.filter
        (fun candidate => candidate.kind.isPairing && !candidate.Names extra.reference) =
      result.candidates.filter (·.kind.isPairing) ∧
    List.Forall₂ Payable.OwesNoMore (run.build manager).run.documents.payables
      ((run.withPayment extra).build other).run.documents.payables := by
  have narrow_fresh := fresh.of_withPayment
  have wide_fresh : (run.withPayment extra).documents.Fresh := fresh
  have unknown : extra.reference ∉ run.documents.references := by
    rw [Documents.references, Documents.withPayment, List.map_append, ← List.append_assoc]
      at distinct
    exact fun mem => (List.disjoint_of_nodup_append distinct) mem (by simp)
  have narrow := returns_of_result returned
  have wide := returns_of_result returned'
  have candidates_eq := narrow.candidates_progress
  have wider_eq := wide.candidates_progress
  obtain ⟨pairings, dues⟩ := Documents.Fresh.settle_withPayment fresh leaves_open narrow.settled
    wide.settled
  have progress_eq := progress_of_unbuilt narrow.unbuilt
  have progress_eq' : (run.withPayment extra).progress =
      ((run.documents.withPayment extra).settle run.settings).1 := progress_of_unbuilt wide.unbuilt
  constructor
  · have unnamed : ∀ candidate ∈ result.candidates.filter (·.kind.isPairing),
        (!candidate.Names extra.reference) = true := by
      intro candidate mem
      rw [candidates_eq] at mem
      rw [not_names_of_mem_candidates narrow_fresh unknown (List.mem_of_mem_filter mem),
        Bool.not_false]
    rw [← progress_eq, ← progress_eq', ← candidates_eq, ← wider_eq,
      List.filter_eq_self.mpr unnamed, List.filter_filter] at pairings
    simpa only [Bool.and_comm] using pairings
  · have exact := (progress_exact narrow_fresh).documents
    have exact' := (progress_exact wide_fresh).documents
    rw [run_build, run_build]
    rw [← progress_eq, ← progress_eq', Documents.dues_book, Documents.dues_book] at dues
    refine forall₂_of_map dues fun before before_mem after after_mem due => ?_
    exact ⟨due.1, Money.abs_value_le (exact'.payables after after_mem).remaining.pay
      (exact.payables before before_mem).remaining.pay due.2⟩

end Run

/-- A dry run over the samples in which the payment received does not cover the first invoice. -/
def Samples.underpaid : Run where
  documents := { documents with payments := [payment 5 .inbound 2000, payment 6 .outbound 1500] }
  settings := { onlyOneVendorDocument := false, partialAllocations := true }
  dryRun := true

/-- A further payment received. -/
def Samples.latePayment : Payment := payment 7 .inbound 1000

theorem Samples.underpaid_fresh :
    (underpaid.documents.withPayment latePayment).Fresh where
  payables := documents_fresh.payables
  payments := by
    simp only [underpaid, latePayment, Documents.withPayment, List.cons_append, List.nil_append,
      List.mem_cons, List.not_mem_nil, or_false, forall_eq_or_imp, forall_eq]
    exact ⟨payment_fresh (by decide) (by decide +kernel),
      payment_fresh (by decide) (by decide +kernel), payment_fresh (by decide) (by decide +kernel)⟩

/-- Another payment received pays some more of the first invoice, before the payment made pays the
purchase invoice as it did. -/
theorem Run.build_withPayment_underpaid :
    (Samples.underpaid.documents.withPayment Samples.latePayment).Fresh ∧
      (Samples.underpaid.documents.withPayment Samples.latePayment).references.Nodup ∧
      Samples.underpaid.settings.leftover = .leaveOpen ∧
      ∃ result wider, (Samples.underpaid.build (none : Option MemoryManager)).result = .ok result ∧
        ((Samples.underpaid.withPayment Samples.latePayment).build
          (none : Option MemoryManager)).result = .ok wider ∧
        wider.candidates.map (·.Names Samples.latePayment.reference) =
          [false, false, true, false, false] ∧
        wider.candidates.filter (fun candidate => candidate.kind.isPairing &&
            !candidate.Names Samples.latePayment.reference) =
          result.candidates.filter (·.kind.isPairing) ∧
        List.Forall₂ Payable.OwesNoMore
          (Samples.underpaid.build (none : Option MemoryManager)).run.documents.payables
          ((Samples.underpaid.withPayment Samples.latePayment).build
            (none : Option MemoryManager)).run.documents.payables := by
  have distinct :
      (Samples.underpaid.documents.withPayment Samples.latePayment).references.Nodup := by
    decide +kernel
  obtain ⟨result, returned⟩ : ∃ result,
      (Samples.underpaid.build (none : Option MemoryManager)).result = .ok result :=
    exists_eq_ok (by decide +kernel)
  obtain ⟨wider, returned'⟩ : ∃ wider,
      ((Samples.underpaid.withPayment Samples.latePayment).build
        (none : Option MemoryManager)).result = .ok wider :=
    exists_eq_ok (by decide +kernel)
  have names : ((Samples.underpaid.withPayment Samples.latePayment).build
      (none : Option MemoryManager)).result.map
        (·.candidates.map (·.Names Samples.latePayment.reference)) =
      .ok [false, false, true, false, false] := by decide +kernel
  rw [returned'] at names
  have kept := build_withPayment Samples.underpaid Samples.latePayment
    (none : Option MemoryManager) (none : Option MemoryManager) Samples.underpaid_fresh distinct
    rfl returned returned'
  exact ⟨Samples.underpaid_fresh, distinct, rfl, result, wider, returned, returned',
    Except.ok.inj names, kept⟩

end Settlement
