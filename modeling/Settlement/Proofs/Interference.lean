import Mathlib.Data.List.Nodup
import Settlement.Proofs.Currencies.Passes
import Settlement.Proofs.Exact.Builds
import Settlement.Proofs.Reconciliation
import Settlement.Store.Manager

/-!
# Currencies do not interfere

Where leftovers stay open, documents in several currencies are settled as if there were a run for
each currency: a dry run over all of them proposes in every currency what a run over the documents
in that currency proposes, in the same order, and leaves these documents as that run does.
-/

namespace Settlement

namespace Documents

variable {documents : Documents} {reference : Reference} {currency : Currency}

/-- Where references are distinct, a payable with a reference is in the currency that is held under
the reference. -/
theorem Holds.payable_currency (holds : documents.Holds reference currency)
    (distinct : documents.references.Nodup) {payable : Payable}
    (mem : payable ∈ documents.payables) (named : payable.reference = reference) :
    payable.currency = currency := by
  obtain ⟨payables_distinct, -, apart⟩ := List.nodup_append.mp distinct
  rcases holds with ⟨other, other_mem, other_named, rfl⟩ | ⟨other, other_mem, other_named, -⟩
  · rw [List.inj_on_of_nodup_map payables_distinct mem other_mem (named.trans other_named.symm)]
  · exact absurd (named.trans other_named.symm) (apart _ (List.mem_map_of_mem mem) _
      (List.mem_map_of_mem other_mem))

/-- Where references are distinct, a payment with a reference is in the currency that is held under
the reference. -/
theorem Holds.payment_currency (holds : documents.Holds reference currency)
    (distinct : documents.references.Nodup) {payment : Payment}
    (mem : payment ∈ documents.payments) (named : payment.reference = reference) :
    payment.currency = currency := by
  obtain ⟨-, payments_distinct, apart⟩ := List.nodup_append.mp distinct
  rcases holds with ⟨other, other_mem, other_named, -⟩ | ⟨other, other_mem, other_named, rfl⟩
  · exact absurd (other_named.trans named.symm) (apart _ (List.mem_map_of_mem other_mem) _
      (List.mem_map_of_mem mem))
  · rw [List.inj_on_of_nodup_map payments_distinct mem other_mem (named.trans other_named.symm)]

/-- Some document is in a currency. -/
def Uses (documents : Documents) (currency : Currency) : Prop :=
  (∃ payable ∈ documents.payables, payable.currency = currency) ∨
    ∃ payment ∈ documents.payments, payment.currency = currency

theorem Uses.isEmpty_only (uses : documents.Uses currency) :
    (documents.only currency).isEmpty = false := by
  rw [isEmpty, Bool.and_eq_false_iff, List.isEmpty_eq_false_iff_exists_mem,
    List.isEmpty_eq_false_iff_exists_mem]
  refine uses.imp ?_ ?_
  · rintro ⟨payable, mem, same⟩
    exact ⟨payable, List.mem_filter.mpr ⟨mem, beq_iff_eq.mpr same⟩⟩
  · rintro ⟨payment, mem, same⟩
    exact ⟨payment, List.mem_filter.mpr ⟨mem, beq_iff_eq.mpr same⟩⟩

/-- Every document that a candidate names, as what it settles or as what it settles it with, is in
a currency. -/
structure NamesOnly (documents : Documents) (currency : Currency) (candidate : Candidate) :
    Prop where
  payables : ∀ payable ∈ documents.payables,
    candidate.payable = payable.reference ∨ candidate.payment = some payable.reference →
      payable.currency = currency
  payments : ∀ payment ∈ documents.payments,
    candidate.payable = payment.reference ∨ candidate.payment = some payment.reference →
      payment.currency = currency

theorem Names.namesOnly {candidate : Candidate} (names : documents.Names candidate)
    (distinct : documents.references.Nodup) :
    documents.NamesOnly candidate.currency candidate where
  payables payable mem named := by
    rcases named with settled | paid_with
    · exact names.payable.payable_currency distinct mem settled.symm
    · exact (names.payment _ paid_with).payable_currency distinct mem rfl
  payments payment mem named := by
    rcases named with settled | paid_with
    · exact names.payable.payment_currency distinct mem settled.symm
    · exact (names.payment _ paid_with).payment_currency distinct mem rfl

end Documents

namespace Run

/-- The run over the documents in a currency alone. -/
def only (currency : Currency) (run : Run) : Run :=
  { run with documents := run.documents.only currency }

variable {τ σ : Type} [TransactionManager τ] [TransactionManager σ]

/-- A dry run over documents in several currencies that comes to a result contains the runs over
the documents in each currency: in a currency that occurs, it proposes what that run proposes, it
leaves the documents as that run leaves them, and it names no documents in other currencies. -/
theorem build_only (run : Run) (manager : Option τ) (other : Option σ) {currency : Currency}
    {result : RunResult} (distinct : run.documents.references.Nodup)
    (single : run.documents.SingleCurrency) (leaves_open : run.settings.leftover = .leaveOpen)
    (unguarded : run.settings.onlyOneVendorDocument = false) (dry : run.dryRun = true)
    (uses : run.documents.Uses currency) (returned : (run.build manager).result = .ok result) :
    (∃ part, ((run.only currency).build other).result = .ok part ∧
        part.candidates = result.candidates.filter (·.currency == currency)) ∧
      ((run.only currency).build other).run.documents =
        (run.build manager).run.documents.only currency ∧
      ∀ candidate ∈ result.candidates, candidate.currency = currency →
        run.documents.NamesOnly currency candidate := by
  have returns := returns_of_result returned
  have part_unbuilt : (run.only currency).built = false := returns.unbuilt
  have progress_eq := progress_of_unbuilt returns.unbuilt
  have part_eq := progress_of_unbuilt part_unbuilt
  have taken := single.settle leaves_open unguarded uses.isEmpty_only returns.settled
  have part_settled : ((run.only currency).documents.settle (run.only currency).settings).2 =
      none := taken.failure?_eq.symm.trans returns.settled
  have mirrors : run.progress.Mirrors run.documents currency (run.only currency).progress := by
    rw [progress_eq, part_eq]
    exact taken.progress
  have candidates_eq : result.candidates = run.progress.candidates := by
    rw [returns.candidates_eq, postings_build, Progress.candidates]
  refine ⟨⟨_, result_of_dry part_unbuilt dry part_settled, ?_⟩, ?_, ?_⟩
  · rw [candidates_eq]
    exact mirrors.candidates
  · rw [run_build, run_build]
    exact mirrors.documents.part_eq
  · intro candidate mem same
    rw [candidates_eq] at mem
    have kept : candidate ∈ (run.only currency).progress.candidates := by
      rw [mirrors.candidates]
      exact List.mem_filter.mpr ⟨mem, beq_iff_eq.mpr same⟩
    exact same ▸ (mirrors.named candidate kept).namesOnly distinct

end Run

/-! ## Samples in two currencies -/

namespace Samples

/-- The same amount of euros. -/
def euros (money : Money) : Money := { money with currency := .eur }

/-- The same parts in euros. -/
def euroAmounts (amounts : Amounts) : Amounts :=
  ⟨euros amounts.pay, euros amounts.discount, euros amounts.writeOff⟩

/-- A sample payable in euros. -/
def euroPayable (payable : Payable) : Payable :=
  { payable with
    openAmount := euros payable.openAmount
    initial := euroAmounts payable.initial
    remaining := euroAmounts payable.remaining
    allocated := euroAmounts payable.allocated }

/-- A sample payment in euros. -/
def euroPayment (payment : Payment) : Payment :=
  { payment with
    openAmount := euros payment.openAmount
    initial := euros payment.initial
    remaining := euros payment.remaining
    allocated := euros payment.allocated }

/-- A dry run over documents in dollars and in euros, mixed up: in dollars an invoice with a
discount, a credit memo and a payment, in euros an invoice without a credit memo and payments
received and made. -/
def mixedRun : Run where
  documents :=
    { payables :=
        [euroPayable (invoice 1 .sales false 4000 0 0), invoice 2 .sales false 10025 200 0,
          invoice 3 .sales true (-3050) 0 0]
      payments :=
        [payment 4 .inbound 6000, euroPayment (payment 5 .inbound 5000),
          euroPayment (payment 6 .outbound 1500)] }
  settings := { onlyOneVendorDocument := false, partialAllocations := true }
  dryRun := true

theorem invoice_singleCurrency (record : Nat) (side : TradeSide) (creditMemo : Bool)
    (pay discount writeOff : Int64) :
    (invoice record side creditMemo pay discount writeOff).SingleCurrency :=
  ⟨rfl, ⟨rfl, rfl, rfl⟩, ⟨rfl, rfl, rfl⟩, ⟨rfl, rfl, rfl⟩⟩

theorem euroPayable_singleCurrency (payable : Payable) : (euroPayable payable).SingleCurrency :=
  ⟨rfl, ⟨rfl, rfl, rfl⟩, ⟨rfl, rfl, rfl⟩, ⟨rfl, rfl, rfl⟩⟩

theorem payment_singleCurrency (record : Nat) (direction : Direction) (amount : Int64) :
    (payment record direction amount).SingleCurrency := by
  cases direction <;> exact ⟨rfl, rfl, rfl⟩

theorem euroPayment_singleCurrency (payment : Payment) : (euroPayment payment).SingleCurrency :=
  ⟨rfl, rfl, rfl⟩

theorem mixedRun_singleCurrency : mixedRun.documents.SingleCurrency where
  payables := by
    simp only [mixedRun, List.mem_cons, List.not_mem_nil, or_false, forall_eq_or_imp, forall_eq]
    exact ⟨euroPayable_singleCurrency _, invoice_singleCurrency .., invoice_singleCurrency ..⟩
  payments := by
    simp only [mixedRun, List.mem_cons, List.not_mem_nil, or_false, forall_eq_or_imp, forall_eq]
    exact ⟨payment_singleCurrency .., euroPayment_singleCurrency _, euroPayment_singleCurrency _⟩

end Samples

/-- The run in euros pairs an invoice with a payment and then two payments with each other, as the
run over both currencies does in between the pairings in dollars. -/
theorem Run.build_only_euros :
    Samples.mixedRun.documents.references.Nodup ∧ Samples.mixedRun.documents.SingleCurrency ∧
      Samples.mixedRun.settings.leftover = .leaveOpen ∧
      Samples.mixedRun.settings.onlyOneVendorDocument = false ∧
      Samples.mixedRun.dryRun = true ∧ Samples.mixedRun.documents.Uses .eur ∧
      ∃ result, (Samples.mixedRun.build (none : Option MemoryManager)).result = .ok result ∧
        result.candidates.map Candidate.currency = [.usd, .eur, .usd, .eur] ∧
        (∃ part,
          ((Samples.mixedRun.only .eur).build (none : Option MemoryManager)).result = .ok part ∧
            part.candidates = result.candidates.filter (·.currency == .eur)) ∧
        ((Samples.mixedRun.only .eur).build (none : Option MemoryManager)).run.documents =
          (Samples.mixedRun.build (none : Option MemoryManager)).run.documents.only .eur ∧
        ∀ candidate ∈ result.candidates, candidate.currency = .eur →
          Samples.mixedRun.documents.NamesOnly .eur candidate := by
  have distinct : Samples.mixedRun.documents.references.Nodup := by decide +kernel
  have uses : Samples.mixedRun.documents.Uses .eur := .inl ⟨_, List.mem_cons_self, rfl⟩
  obtain ⟨result, returned⟩ :
      ∃ result, (Samples.mixedRun.build (none : Option MemoryManager)).result = .ok result :=
    exists_eq_ok (by decide +kernel)
  have currencies : (Samples.mixedRun.build (none : Option MemoryManager)).result.map
      (·.candidates.map Candidate.currency) = .ok [.usd, .eur, .usd, .eur] := by decide +kernel
  rw [returned] at currencies
  have parts := build_only Samples.mixedRun (none : Option MemoryManager)
    (none : Option MemoryManager) distinct Samples.mixedRun_singleCurrency rfl rfl rfl uses returned
  exact ⟨distinct, Samples.mixedRun_singleCurrency, rfl, rfl, rfl, uses, result, returned,
    Except.ok.inj currencies, parts⟩

end Settlement
