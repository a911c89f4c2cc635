import Mathlib.Algebra.Order.BigOperators.Group.List
import Settlement.Proofs.Exact.Rearranged
import Settlement.Proofs.Safety

/-!
# The order of documents

The order in which a run is given its documents decides which of them meet.  It does not decide
how much is paid: a dry run over the same documents in another order is refused for the same kind
of reason, or pays the same amount of every kind in every currency and comes to the same verdict.
-/

namespace Settlement

/-- What the candidates of a kind pay in a currency. -/
def RunResult.paid (result : RunResult) (kind : CandidateKind) (currency : Currency) : Rat :=
  total (fun candidate => candidate.kind == kind && candidate.currency == currency)
    (·.amounts.pay) result.candidates

/-- Verdicts that only differ in the documents that they name. -/
inductive Verdict.Alike : Verdict → Verdict → Prop where
  | passed : Alike .passed .passed
  | payables (first second : List Reference) :
      Alike (.failed (.payables first)) (.failed (.payables second))
  | payments (first second : List Reference) :
      Alike (.failed (.payments first)) (.failed (.payments second))

/-- Outcomes that only differ in which documents meet: both are refused by errors of one variant,
or both pay the same of every kind that has two sides, in every currency, and come to the same
verdict. -/
inductive Run.Alike : Except Failure RunResult → Except Failure RunResult → Prop where
  | refused {error other : AllocationError} (variant : error.ctorIdx = other.ctorIdx) :
      Alike (.error (.refused error)) (.error (.refused other))
  | returned {result other : RunResult}
      (paid : ∀ kind, kind ≠ .invoiceDiscountOrWriteOff → ∀ currency,
        result.paid kind currency = other.paid kind currency)
      (verdict : result.verdict.Alike other.verdict) : Alike (.ok result) (.ok other)

/-! ## The same documents in another order -/

/-- The same documents in another order. -/
structure Documents.Permuted (first second : Documents) : Prop where
  payables : first.payables.Perm second.payables
  payments : first.payments.Perm second.payments

namespace Documents

variable {first second : Documents}

theorem Permuted.fresh (permuted : first.Permuted second) (fresh : first.Fresh) :
    second.Fresh where
  payables payable mem := fresh.payables payable (permuted.payables.mem_iff.mpr mem)
  payments payment mem := fresh.payments payment (permuted.payments.mem_iff.mpr mem)

theorem Permuted.distinct (permuted : first.Permuted second)
    (distinct : first.references.Nodup) : second.references.Nodup := by
  have perm : first.references.Perm second.references :=
    (permuted.payables.map _).append (permuted.payments.map _)
  exact perm.nodup_iff.mp distinct

theorem Permuted.book (permuted : first.Permuted second) (fresh : first.Fresh)
    (distinct : first.references.Nodup) (policy : LeftoverPolicy) :
    Book.Permuted policy first.book second.book where
  first_sound := fresh.sound policy
  second_sound := (permuted.fresh fresh).sound policy
  first_distinct := distinct_book distinct
  second_distinct := distinct_book (permuted.distinct distinct)
  debts := (permuted.payables.map _).map _
  funds := (permuted.payments.map _).map _

/-- The order of documents does not matter for what is left of them. -/
theorem Permuted.outstanding (permuted : first.Permuted second) (weights : Weights) :
    first.book.outstanding weights = second.book.outstanding weights := by
  have debts : (first.book.debts).Perm second.book.debts := permuted.payables.map _
  have funds : (first.book.funds).Perm second.book.funds := permuted.payments.map _
  rw [Book.outstanding, Book.outstanding, Book.weigh, Book.weigh, (debts.map _).sum_eq,
    (funds.map _).sum_eq]

theorem Permuted.vendorDocuments (permuted : first.Permuted second) :
    first.outboundPayments.length = second.outboundPayments.length ∧
      first.vendorPayables.length = second.vendorPayables.length ∧
        first.vendorCreditMemos.length = second.vendorCreditMemos.length :=
  ⟨(permuted.payments.filter _).length_eq, (permuted.payables.filter _).length_eq,
    (permuted.payables.filter _).length_eq⟩

/-- Documents in another order are refused for the same kind of reason before they are matched. -/
theorem Permuted.check (permuted : first.Permuted second) (settings : Settings) :
    (first.check settings = .ok () ∧ second.check settings = .ok ()) ∨
      ∃ error other, first.check settings = .error error ∧
        second.check settings = .error other ∧ error.ctorIdx = other.ctorIdx := by
  obtain ⟨outbound, payables, memos⟩ := permuted.vendorDocuments
  have empty : first.isEmpty = second.isEmpty := by
    rw [isEmpty, isEmpty, permuted.payables.isEmpty_eq, permuted.payments.isEmpty_eq]
  unfold Documents.check checkVendorDocuments
  rw [empty, outbound, payables, memos]
  split_ifs
  · exact .inr ⟨_, _, rfl, rfl, rfl⟩
  · exact .inr ⟨_, _, rfl, rfl, rfl⟩
  · exact .inl ⟨rfl, rfl⟩
  · exact .inl ⟨rfl, rfl⟩

end Documents

/-! ## Settlements -/

namespace Progress

variable {progress : Progress}

theorem totalTicks_candidates {property : Candidate → Bool} {counts : Entry → Prop}
    [DecidablePred counts]
    {postings : List Posting}
    (selected : ∀ candidate ∈ postings.map (·.candidate),
      (property candidate = true ↔ counts candidate.entry)) :
    totalTicks property (·.amounts.pay) (postings.map (·.candidate)) =
      ((postings.map Posting.deal).map fun deal =>
        if counts deal.entry then deal.entry.parts.pay else 0).sum := by
  induction postings with
  | nil => rfl
  | cons posting rest ih =>
      have tail := ih fun candidate mem => selected candidate (List.mem_cons_of_mem _ mem)
      rw [List.map_cons, totalTicks_cons, tail, List.map_cons, List.map_cons, List.sum_cons]
      congr 1
      exact if_congr (selected posting.candidate List.mem_cons_self) rfl rfl

/-- What selected candidates of a settlement pay is what their deals pay, divided by ten
thousand. -/
theorem Exact.total_paidBy (exact : progress.Exact) {property : Candidate → Bool}
    {counts : Entry → Prop} [DecidablePred counts]
    (selected : ∀ candidate ∈ progress.candidates,
      (property candidate = true ↔ counts candidate.entry)) :
    total property (·.amounts.pay) progress.candidates =
      (progress.history.paidBy counts : Rat) / tenTo Money.places := by
  have grid : ∀ candidate ∈ progress.candidates, candidate.amounts.pay.amount.OnGrid := by
    intro candidate mem
    obtain ⟨posting, posting_mem, rfl⟩ := List.mem_map.mp mem
    exact (exact.postings posting posting_mem).candidate.amounts.pay.grid
  rw [total_eq _ grid, candidates, totalTicks_candidates selected]
  rfl

/-- What the candidates of a kind pay in a currency. -/
theorem Exact.total_paid (exact : progress.Exact) (kind : CandidateKind) (currency : Currency) :
    total (fun candidate => candidate.kind == kind && candidate.currency == currency)
        (·.amounts.pay) progress.candidates =
      (progress.history.paid kind currency : Rat) / tenTo Money.places := by
  rw [History.paid_eq_paidBy]
  apply exact.total_paidBy
  intro candidate mem
  rw [Bool.and_eq_true, beq_iff_eq, beq_iff_eq]
  rfl

end Progress

namespace Documents

variable {first second : Documents} {settings : Settings}

/-- Settlements of the same documents in another order pay the same and leave the same. -/
theorem Permuted.settle (permuted : first.Permuted second) (fresh : first.Fresh)
    (distinct : first.references.Nodup) (first_checked : first.check settings = .ok ())
    (second_checked : second.check settings = .ok ()) :
    Book.Permuted settings.leftover (first.settle settings).1.history.book
        (second.settle settings).1.history.book ∧
      History.Alike Weights.IsWhole (first.settle settings).1.history
        (second.settle settings).1.history := by
  have books := permuted.book fresh distinct settings.leftover
  have start : History.Alike (fun _ => True) { book := first.book } { book := second.book } :=
    ⟨fun weights _ => permuted.outstanding weights, fun _ _ _ => rfl⟩
  rw [(settle_follows fresh.exact books.first_sound).history_eq,
    (settle_follows (permuted.fresh fresh).exact books.second_sound).history_eq,
    Book.settle_of_checked (by rwa [← check_book]),
    Book.settle_of_checked (by rwa [← check_book])]
  have first_later : Book.Later _ ({ book := first.book } : History).book _ :=
    History.later_runPasses books.first_sound settings.passes
  have second_later : Book.Later _ ({ book := second.book } : History).book _ :=
    History.later_runPasses books.second_sound settings.passes
  exact ⟨books.later first_later second_later, start.runPasses books settings⟩

end Documents

/-! ## Verdicts -/

namespace Verdict

/-- A verdict names open payables, or open payments where no payable is open. -/
theorem ofDocuments_cases (documents : Documents) :
    ((∃ payable ∈ documents.payables, ¬payable.isFullyAllocated = true) ∧
        ∃ references, ofDocuments documents = .failed (.payables references)) ∨
      ((¬∃ payable ∈ documents.payables, ¬payable.isFullyAllocated = true) ∧
        (∃ payment ∈ documents.payments, ¬payment.isFullyAllocated = true) ∧
        ∃ references, ofDocuments documents = .failed (.payments references)) ∨
      (¬∃ payable ∈ documents.payables, ¬payable.isFullyAllocated = true) ∧
        (¬∃ payment ∈ documents.payments, ¬payment.isFullyAllocated = true) ∧
        ofDocuments documents = .passed := by
  unfold ofDocuments
  split
  · rename_i first rest open_eq
    have mem : first ∈ documents.payables.filter fun payable => !payable.isFullyAllocated :=
      open_eq ▸ List.mem_cons_self
    obtain ⟨first_mem, first_open⟩ := List.mem_filter.mp mem
    exact .inl ⟨⟨first, first_mem, by simpa using first_open⟩, _, rfl⟩
  rename_i none_open
  have closed : ¬∃ payable ∈ documents.payables, ¬payable.isFullyAllocated = true := by
    simpa [List.filter_eq_nil_iff] using none_open
  right
  split
  · rename_i first rest open_eq
    have mem : first ∈ documents.payments.filter fun payment => !payment.isFullyAllocated :=
      open_eq ▸ List.mem_cons_self
    obtain ⟨first_mem, first_open⟩ := List.mem_filter.mp mem
    exact .inl ⟨closed, ⟨first, first_mem, by simpa using first_open⟩, _, rfl⟩
  · rename_i none_left
    refine .inr ⟨closed, ?_, rfl⟩
    simpa [List.filter_eq_nil_iff] using none_left

theorem ofDocuments_alike {first second : Documents}
    (payables : (∃ payable ∈ first.payables, ¬payable.isFullyAllocated = true) ↔
      ∃ payable ∈ second.payables, ¬payable.isFullyAllocated = true)
    (payments : (∃ payment ∈ first.payments, ¬payment.isFullyAllocated = true) ↔
      ∃ payment ∈ second.payments, ¬payment.isFullyAllocated = true) :
    (ofDocuments first).Alike (ofDocuments second) := by
  rcases ofDocuments_cases first with
    ⟨some_open, references, first_eq⟩ | ⟨closed, some_left, references, first_eq⟩ |
      ⟨closed, none_left, first_eq⟩
  · rcases ofDocuments_cases second with ⟨-, others, second_eq⟩ | ⟨other_closed, -⟩ |
      ⟨other_closed, -⟩
    · exact first_eq ▸ second_eq ▸ .payables references others
    · exact absurd (payables.mp some_open) other_closed
    · exact absurd (payables.mp some_open) other_closed
  · rcases ofDocuments_cases second with ⟨other_open, -⟩ | ⟨-, -, others, second_eq⟩ |
      ⟨-, other_left, -⟩
    · exact absurd (payables.mpr other_open) closed
    · exact first_eq ▸ second_eq ▸ .payments references others
    · exact absurd (payments.mp some_left) other_left
  · rcases ofDocuments_cases second with ⟨other_open, -⟩ | ⟨-, other_left, -⟩ | ⟨-, -, second_eq⟩
    · exact absurd (payables.mpr other_open) closed
    · exact absurd (payments.mpr other_left) none_left
    · exact first_eq ▸ second_eq ▸ .passed

end Verdict

namespace Documents

variable {documents : Documents}

theorem payables_open_iff (documents : Documents) :
    (∃ payable ∈ documents.payables, ¬payable.isFullyAllocated = true) ↔
      ∃ debt ∈ documents.book.debts, debt.IsOpen := by
  simp [Payable.isFullyAllocated_iff, book]

theorem payments_open_iff (documents : Documents) :
    (∃ payment ∈ documents.payments, ¬payment.isFullyAllocated = true) ↔
      ∃ fund ∈ documents.book.funds, fund.IsOpen := by
  simp [Payment.isFullyAllocated_iff, book]

/-- Documents that are left alike come to verdicts that only differ in the documents they name. -/
theorem verdict_alike {policy : LeftoverPolicy} {first second : Progress}
    (books : Book.Permuted policy first.history.book second.history.book)
    (alike : History.Alike Weights.IsWhole first.history second.history) :
    (Verdict.ofDocuments first.documents).Alike (Verdict.ofDocuments second.documents) := by
  apply Verdict.ofDocuments_alike
  · rw [payables_open_iff, payables_open_iff]
    exact alike.debts_open books
  · rw [payments_open_iff, payments_open_iff]
    exact alike.funds_open books

end Documents

/-! ## Builds -/

namespace Run

variable {τ σ : Type} [TransactionManager τ] [TransactionManager σ] {run : Run}
  {manager : Option τ}

theorem build_of_check {error : AllocationError} (unbuilt : run.built = false)
    (refused : run.documents.check run.settings = .error error) :
    (run.build manager).result = .error (.refused error) := by
  rw [build_of_unbuilt manager unbuilt, buildFresh, Documents.settle, refused]

/-- Dry runs over the same documents in another order have outcomes that only differ in which
documents meet. -/
theorem build_order_independent (first second : Run) (manager : Option τ) (other : Option σ)
    (fresh : first.documents.Fresh) (distinct : first.documents.references.Nodup)
    (payables : first.documents.payables.Perm second.documents.payables)
    (payments : first.documents.payments.Perm second.documents.payments)
    (settings_eq : second.settings = first.settings) (built_eq : second.built = first.built)
    (first_dry : first.dryRun = true) (second_dry : second.dryRun = true) :
    Alike (first.build manager).result (second.build other).result := by
  have permuted : first.documents.Permuted second.documents := ⟨payables, payments⟩
  cases built : first.built with
  | true =>
      rw [build_of_built manager built, build_of_built other (built_eq.trans built)]
      exact .refused rfl
  | false =>
      have second_unbuilt := built_eq.trans built
      rcases permuted.check first.settings with
        ⟨checked, second_checked⟩ | ⟨error, another, refused, second_refused, variant⟩
      · have second_fresh := permuted.fresh fresh
        have first_ended := fresh.settle_ends distinct checked
        have second_ended := second_fresh.settle_ends (permuted.distinct distinct) second_checked
        have first_exact := progress_exact fresh
        have second_exact := progress_exact second_fresh
        obtain ⟨books, alike⟩ := permuted.settle fresh distinct checked second_checked
        rw [← settings_eq] at second_ended
        rw [progress_of_unbuilt built] at first_exact
        rw [progress_of_unbuilt second_unbuilt, settings_eq] at second_exact
        rw [result_of_dry built first_dry first_ended,
          result_of_dry second_unbuilt second_dry second_ended, progress_of_unbuilt built,
          progress_of_unbuilt second_unbuilt, settings_eq]
        apply Alike.returned
        · intro kind two_sided currency
          rw [RunResult.paid, RunResult.paid]
          rw [first_exact.total_paid, second_exact.total_paid, alike.paid kind two_sided currency]
        · unfold verdict
          dsimp only
          split
          · exact .passed
          · exact Documents.verdict_alike books alike
      · rw [build_of_check built refused,
          build_of_check second_unbuilt (settings_eq ▸ second_refused)]
        exact .refused variant

end Run

/-- A dry run over two sales invoices of the same amount and one payment that covers one of
them. -/
def Samples.rivals : Run where
  documents :=
    { payables := [invoice 1 .sales false 6000 0 0, invoice 2 .sales false 6000 0 0]
      payments := [payment 3 .inbound 6000] }
  dryRun := true

/-- The same run with the invoices the other way round. -/
def Samples.swapped : Run :=
  { rivals with
    documents := { rivals.documents with payables := rivals.documents.payables.reverse } }

theorem Samples.rivals_fresh : Samples.rivals.documents.Fresh where
  payables := by
    simp only [rivals, List.mem_cons, List.not_mem_nil, or_false, forall_eq_or_imp, forall_eq]
    exact ⟨invoice_fresh (by decide +kernel), invoice_fresh (by decide +kernel)⟩
  payments := by
    simp only [rivals, List.mem_singleton, forall_eq]
    exact payment_fresh (by decide) (by decide +kernel)

/-- Whichever invoice comes first is paid, and the other one stays open. -/
theorem Run.build_order_independent_rivals :
    Samples.rivals.documents.Fresh ∧ Samples.rivals.documents.references.Nodup ∧
      Samples.rivals.documents.payables.Perm Samples.swapped.documents.payables ∧
      Samples.rivals.documents.payments.Perm Samples.swapped.documents.payments ∧
      Samples.swapped.settings = Samples.rivals.settings ∧
      Samples.swapped.built = Samples.rivals.built ∧
      Samples.rivals.dryRun = true ∧ Samples.swapped.dryRun = true ∧
      (Samples.rivals.build (none : Option MemoryManager)).result.map (·.verdict) =
        .ok (.failed (.payables [.invoice (.ofNat 2)])) ∧
      (Samples.swapped.build (none : Option MemoryManager)).result.map (·.verdict) =
        .ok (.failed (.payables [.invoice (.ofNat 1)])) ∧
      Run.Alike (Samples.rivals.build (none : Option MemoryManager)).result
        (Samples.swapped.build (none : Option MemoryManager)).result := by
  have distinct : Samples.rivals.documents.references.Nodup := by decide +kernel
  have payables : Samples.rivals.documents.payables.Perm Samples.swapped.documents.payables :=
    (List.reverse_perm _).symm
  have payments : Samples.rivals.documents.payments.Perm Samples.swapped.documents.payments :=
    .refl _
  have alike := build_order_independent Samples.rivals Samples.swapped
    (none : Option MemoryManager) (none : Option MemoryManager) Samples.rivals_fresh distinct
    payables payments rfl rfl rfl rfl
  have first_left : (Samples.rivals.build (none : Option MemoryManager)).result.map (·.verdict) =
      .ok (.failed (.payables [.invoice (.ofNat 2)])) := by decide +kernel
  have second_left : (Samples.swapped.build (none : Option MemoryManager)).result.map (·.verdict) =
      .ok (.failed (.payables [.invoice (.ofNat 1)])) := by decide +kernel
  exact ⟨Samples.rivals_fresh, distinct, payables, payments, rfl, rfl, rfl, rfl, first_left,
    second_left, alike⟩

end Settlement
