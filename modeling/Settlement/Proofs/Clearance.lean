import Settlement.Proofs.Concessions
import Settlement.Proofs.OpenDocuments
import Settlement.Proofs.Transitions

/-!
# Leftovers are cleared

Where leftovers are written off or granted as discount, the pass that pairs payments with payables
disposes of whatever is still open of every payable, provided there is a payment at all.  The last
pass then catches the discount and the write-off of payables that were settled before, so nothing
is left of any payable, and none has been disposed of twice.
-/

namespace Settlement

/-- How a build clears the payables. -/
structure Build.ClearsPayables {τ : Type} (before : Run) (build : Build τ) : Prop where
  /-- Nothing is left of any payable. -/
  cleared : ∀ payable ∈ build.run.documents.payables, payable.remaining.isZero = true
  /-- The check of the documents finds no open payable. -/
  checked : ∀ references, Verdict.ofDocuments build.run.documents ≠ .failed (.payables references)
  /-- The check stops no build for an open payable. -/
  raised : ∀ references,
    build.run.raiseUnlessDry ≠ .error (.payablesNotAllocated references)
  /-- No result names an open payable. -/
  told : ∀ result, build.result = .ok result →
    ∀ references, result.verdict ≠ .failed (.payables references)
  /-- Every candidate for a leftover concedes something of a payable. -/
  conceded : ∀ transition ∈ build.transitions before.documents,
    transition.candidate.kind = .invoiceDiscountOrWriteOff → ∃ place, transition.Concedes place
  /-- No payable is conceded to twice. -/
  once : (build.transitions before.documents).Pairwise fun first second =>
    ∀ place, first.Concedes place → ¬second.Concedes place

/-- Documents without an open payable are not refused for one. -/
theorem Verdict.ofDocuments_ne_payables {documents : Documents}
    (paid : ∀ payable ∈ documents.payables, payable.remaining.isZero = true)
    (references : List Reference) :
    ofDocuments documents ≠ .failed (.payables references) := by
  intro failed
  have names := ofDocuments_names documents
  rw [failed] at names
  cases names with
  | payables some_payables =>
      refine some_payables ((Documents.openPayables_eq_nil_iff documents).mpr ?_)
      intro payable mem
      have nothing := paid payable mem
      simp only [Amounts.isZero, Bool.and_eq_true] at nothing
      exact (Decimal.isZero_iff_value _).mp nothing.1.1

namespace Run

variable {τ : Type} [TransactionManager τ] {run : Run}

/-- A verdict on documents without an open payable does not name any. -/
theorem verdict_ne_payables
    (checked : ∀ references, Verdict.ofDocuments run.documents ≠ .failed (.payables references))
    (references : List Reference) : run.verdict ≠ .failed (.payables references) := by
  unfold verdict
  split_ifs
  · exact nofun
  · exact checked references

theorem raise_ne_payables
    (unfailed : ∀ references, run.verdict ≠ .failed (.payables references))
    (references : List Reference) :
    run.raiseUnlessDry ≠ .error (.payablesNotAllocated references) := by
  intro raised
  unfold raiseUnlessDry at raised
  split_ifs at raised
  cases verdict_eq : run.verdict with
  | passed =>
      rw [verdict_eq] at raised
      cases raised
  | failed documents =>
      rw [verdict_eq] at raised
      cases documents with
      | payables named => exact unfailed named verdict_eq
      | payments named => cases raised

/-- Where leftovers are disposed of and there is a payment, nothing is left to pay of any
payable. -/
theorem paid_of_leftover (fresh : run.documents.Fresh) (moves : run.settings.leftover ≠ .leaveOpen)
    (some_payments : run.documents.payments ≠ []) (unbuilt : run.built = false)
    (settled : (run.documents.settle run.settings).2 = none) :
    ∀ payable ∈ run.progress.documents.payables, payable.remaining.pay.isZero = true := by
  intro payable mem
  obtain ⟨place, -, debt_eq⟩ := Documents.place_of_mem_payables mem
  have later := (progress_trail fresh).later (fresh.sound _)
  have funds_length : run.progress.documents.book.funds.length = run.documents.payments.length :=
    later.funds.length_eq.symm.trans (List.length_map _)
  have some_means :
      (List.range run.progress.documents.book.funds.length).map Means.payment ≠ [] := by
    rw [funds_length, Ne, List.map_eq_nil_iff, List.range_eq_nil, List.length_eq_zero_iff]
    exact some_payments
  have place_mem := List.mem_range.mpr (List.getElem?_eq_some_iff.mp debt_eq).1
  -- The pass over payments ends every payable's turn with its leftover.
  have leftover_settled := steps_settled fresh unbuilt settled .payments (by simp [Settings.passes])
    (.leftover place) (Step.mem_pairAll.mpr ⟨some_means, place, place_mem, .inr rfl⟩)
  have closed := (Book.settled_leftover_iff debt_eq).mp leftover_settled
  exact payable.isFullyAllocated_iff.mpr fun still_open => closed ⟨still_open, moves⟩

/-- A build of fresh documents with a payment among them that disposes of leftovers clears the
payables, whatever the payment is compatible with. -/
theorem build_clears (run : Run) (manager : Option τ) (fresh : run.documents.Fresh)
    (moves : run.settings.leftover ≠ .leaveOpen) (some_payments : run.documents.payments ≠ [])
    (unbuilt : run.built = false) (settled : (run.documents.settle run.settings).2 = none) :
    (run.build manager).ClearsPayables run := by
  have extras := (exhausted_of_settled fresh unbuilt settled).extras
  have cleared : ∀ payable ∈ (run.build manager).run.documents.payables,
      payable.remaining.isZero = true := by
    rw [run_build]
    intro payable mem
    have paid := paid_of_leftover fresh moves some_payments unbuilt settled payable mem
    obtain ⟨discount, writeOff⟩ := extras payable mem
    rw [Amounts.isZero, paid, discount, writeOff]
    rfl
  have checked := Verdict.ofDocuments_ne_payables cleared
  have unfailed := verdict_ne_payables checked
  exact
    { cleared := cleared
      checked := checked
      raised := raise_ne_payables unfailed
      told := fun result returned => (returns_of_result returned).verdict_eq ▸ unfailed
      conceded := fun transition mem kind_eq => by
        obtain ⟨place, concedes⟩ := (transitions_made manager fresh transition mem).concedes kind_eq
        exact ⟨place, (concedes_iff_move manager fresh mem place).mpr concedes⟩
      once := transitions_concede_once manager fresh }

/-- A run over the samples that writes leftovers off clears them, though its payments do not cover
all of them. -/
theorem build_clears_samples :
    Samples.writingOff.documents.Fresh ∧ Samples.writingOff.settings.leftover ≠ .leaveOpen ∧
      Samples.writingOff.documents.payments ≠ [] ∧ Samples.writingOff.built = false ∧
      (Samples.writingOff.documents.settle Samples.writingOff.settings).2 = none ∧
      (∃ payable ∈ (Samples.writingOff.build (none : Option MemoryManager)).run.documents.payables,
        payable.waived ≠ 0) ∧
      (Samples.writingOff.build (none : Option MemoryManager)).ClearsPayables
        Samples.writingOff := by
  have settled : (Samples.writingOff.documents.settle Samples.writingOff.settings).2 = none := by
    decide +kernel
  have clears := build_clears Samples.writingOff (none : Option MemoryManager)
    Samples.documents_fresh (by decide) (by decide) rfl settled
  exact ⟨Samples.documents_fresh, by decide, by decide, rfl, settled, by decide +kernel, clears⟩

end Run
end Settlement
