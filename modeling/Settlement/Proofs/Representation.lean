import Settlement.Proofs.Previews
import Settlement.Proofs.Values.Settlements

/-!
# Amounts written in other ways

A build works on the values of amounts.  Documents whose amounts are written with more or fewer
fraction digits, or with a sign on zero, are refused alike, cut short alike, and settled by the
same candidates.
-/

namespace Settlement

/-- The same candidates with the same money, the same verdict and the same headers. -/
structure RunResult.SameValue (left right : RunResult) : Prop where
  candidates : List.Forall₂ Candidate.SameValue left.candidates right.candidates
  verdict_eq : left.verdict = right.verdict
  allocations_eq : left.allocations = right.allocations

namespace Run

theorem verdict_agrees {first second : Run} (settings_eq : second.settings = first.settings)
    (same : first.documents.Agrees second.documents) : first.verdict = second.verdict := by
  rw [verdict, verdict, settings_eq, same.verdict_eq]

/-- Two dry runs under the same settings, over documents that are the same entry by entry and
amount by amount as far as values go, both fail with the same error or fault, or both return
results of one value; and what they leave of the documents has one value too. -/
theorem build_respects_values {τ τ' : Type} [TransactionManager τ] [TransactionManager τ']
    (first second : Run) (manager : Option τ) (manager' : Option τ')
    (settings_eq : second.settings = first.settings) (built_eq : second.built = first.built)
    (first_dry : first.dryRun = true) (second_dry : second.dryRun = true)
    (same : first.documents.SameValue second.documents) :
    SameOutcome RunResult.SameValue (first.build manager).result (second.build manager').result ∧
      (first.build manager).run.documents.SameValue (second.build manager').run.documents := by
  have agrees := Documents.sameValue_iff_agrees.mp same
  cases built : first.built with
  | true =>
      rw [build_of_built manager built, build_of_built manager' (built_eq.trans built)]
      exact ⟨.failed _, same⟩
  | false =>
      have settled := agrees.settle first.settings
      rw [build_of_unbuilt manager built, build_of_unbuilt manager' (built_eq.trans built),
        buildFresh, buildFresh, settings_eq]
      generalize first.documents.settle first.settings = advance at settled ⊢
      generalize second.documents.settle first.settings = advance' at settled ⊢
      obtain ⟨progress, failure?⟩ := advance
      obtain ⟨progress', failure?'⟩ := advance'
      obtain ⟨progress_same, rfl⟩ := settled
      have left := Documents.sameValue_iff_agrees.mpr progress_same.documents
      cases failure? with
      | some failure => exact ⟨.failed failure, left⟩
      | none =>
          dsimp only
          rw [run_finish, run_finish]
          refine ⟨?_, left⟩
          have returned := (finish_dry
            { first with documents := progress.documents, built := true } first_dry progress
            (first.opening :: progress.events) manager).1
          have returned' := (finish_dry
            { second with
              documents := progress'.documents, settings := first.settings, built := true }
            second_dry progress' (second.opening :: progress'.events) manager').1
          rw [returned, returned']
          exact .done ⟨progress_same.candidates, verdict_agrees rfl progress_same.documents, rfl⟩

end Run

/-! ## Samples written in another way -/

namespace Samples

/-- The same number with one more fraction digit, and zero with the other sign. -/
def respelledDecimal (number : Decimal) : Decimal :=
  if number.coefficient = 0 then
    number.neg
  else if fits : number.coefficient * 10 < coefficientLimit ∧ number.scale + 1 ≤ 28 then
    { negative := number.negative
      coefficient := number.coefficient * 10
      scale := number.scale + 1
      coefficient_lt := fits.1
      scale_le := fits.2 }
  else
    number

/-- The same money, written in another way. -/
def respelledMoney (money : Money) : Money :=
  { money with amount := respelledDecimal money.amount }

/-- The same amounts, written in another way. -/
def respelledAmounts (amounts : Amounts) : Amounts :=
  ⟨respelledMoney amounts.pay, respelledMoney amounts.discount, respelledMoney amounts.writeOff⟩

/-- The samples with all amounts written in another way. -/
def respelled : Run where
  documents :=
    { payables := documents.payables.map fun payable =>
        { payable with
          openAmount := respelledMoney payable.openAmount
          initial := respelledAmounts payable.initial
          remaining := respelledAmounts payable.remaining
          allocated := respelledAmounts payable.allocated }
      payments := documents.payments.map fun payment =>
        { payment with
          openAmount := respelledMoney payment.openAmount
          initial := respelledMoney payment.initial
          remaining := respelledMoney payment.remaining
          allocated := respelledMoney payment.allocated } }
  settings := run.settings
  dryRun := true

theorem respelled_same : documents.SameValue respelled.documents where
  payables := .cons (by decide) (.cons (by decide) (.cons (by decide) (.cons (by decide) .nil)))
  payments := .cons (by decide) (.cons (by decide) .nil)

end Samples

/-- Dry runs over the samples, written in two ways, come to results of one value that are written
in two ways. -/
theorem Run.build_respects_values_respelled :
    Samples.respelled.settings = Samples.run.settings ∧
      Samples.respelled.built = Samples.run.dry.built ∧
      Samples.run.dry.dryRun = true ∧ Samples.respelled.dryRun = true ∧
      Samples.run.dry.documents.SameValue Samples.respelled.documents ∧
      (Samples.run.dry.build (none : Option MemoryManager)).result ≠
        (Samples.respelled.build (none : Option MemoryManager)).result ∧
      SameOutcome RunResult.SameValue
        (Samples.run.dry.build (none : Option MemoryManager)).result
        (Samples.respelled.build (none : Option MemoryManager)).result ∧
      (Samples.run.dry.build (none : Option MemoryManager)).run.documents.SameValue
        (Samples.respelled.build (none : Option MemoryManager)).run.documents :=
  ⟨rfl, rfl, rfl, rfl, Samples.respelled_same, by decide +kernel,
    build_respects_values Samples.run.dry Samples.respelled none none rfl rfl rfl rfl
      Samples.respelled_same⟩

end Settlement
