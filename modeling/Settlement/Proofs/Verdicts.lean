import Settlement.Proofs.Balances
import Settlement.Proofs.Conservation
import Settlement.Proofs.Maximality
import Settlement.Proofs.OpenDocuments

/-!
# The strict verdict is exact

The verdict only asks what is left to pay.  A build that comes to its end has granted every
discount and write-off as well, so when nothing is left to pay each payable has been allocated all
that it started with; and where leftovers stay open the payables and the payments of a currency
come to the same amount.
-/

namespace Settlement

/-! ## What has been allocated in the end -/

/-- Amounts whose totals can be formed and are the same money. -/
def Amounts.SameTotal (left right : Amounts) : Prop :=
  ∃ left_total right_total, left.total = .ok left_total ∧ right.total = .ok right_total ∧
    left_total.SameValue right_total

/-- What has been allocated of a debt and what is left of it come to what it started with:
what is waived of the pay amount goes to the discount or to the write-off. -/
theorem Debt.Sound.total_balance {policy : LeftoverPolicy} {debt : Debt}
    (sound : debt.Sound policy) :
    debt.allocated.total + debt.remaining.total = debt.initial.total := by
  have discount := sound.discount_balance
  have writeOff := sound.writeOff_balance
  have waived_eq : debt.waivedTo policy .discount + debt.waivedTo policy .writeOff =
      debt.waived := by
    cases policy with
    | leaveOpen => exact (sound.waived_open rfl).symm
    | discount => exact Int.add_zero _
    | writeOff => exact Int.zero_add _
  simp only [Debt.waived] at waived_eq
  simp only [Parts.total]
  omega

namespace Payable

variable {payable : Payable} {policy : LeftoverPolicy}

/-- A payable without a remainder has been allocated all that it started with. -/
theorem sameTotal_of_settled (exact : payable.Exact) (sound : payable.debt.Sound policy)
    (settled : payable.debt.remaining = 0) : payable.allocated.SameTotal payable.initial := by
  have balance := sound.total_balance
  have allocated_small := sound.allocated_small
  have initial_small := sound.small
  have nothing : (0 : Parts).total = 0 := rfl
  rw [settled, nothing, Int.add_zero] at balance
  obtain ⟨allocated, allocated_eq, allocated_exact, allocated_ticks⟩ :=
    Amounts.total_gives exact.allocated (Nat.lt_of_le_of_lt (Nat.le_add_left _ _) allocated_small)
  obtain ⟨initial, initial_eq, initial_exact, initial_ticks⟩ :=
    Amounts.total_gives exact.initial (Nat.lt_of_le_of_lt (Nat.le_add_left _ _) initial_small)
  refine ⟨allocated, initial, allocated_eq, initial_eq,
    (allocated_exact.sameValue_iff initial_exact).mpr ?_⟩
  rw [allocated_ticks, initial_ticks]
  exact balance

end Payable

/-! ## Totals of a currency -/

/-- Lists whose entries agree pairwise come to one total. -/
theorem total_eq_of_forall₂ {α : Type} {related : α → α → Prop} {property property' : α → Bool}
    {amount amount' : α → Money} {entries entries' : List α}
    (same : List.Forall₂ related entries entries')
    (counted : ∀ left right, related left right → property left = property' right)
    (agree : ∀ left right, related left right →
      (amount left).amount.value = (amount' right).amount.value) :
    total property amount entries = total property' amount' entries' := by
  induction same with
  | nil => rfl
  | cons head rest ih =>
      unfold total at ih ⊢
      rw [List.filter_cons, List.filter_cons, counted _ _ head]
      split
      · rw [List.map_cons, List.map_cons, List.sum_cons, List.sum_cons, agree _ _ head, ih]
      · exact ih

/-- In every currency, the pay amounts that the payables start with come to what the payments start
with. -/
def Documents.Balanced (documents : Documents) : Prop :=
  ∀ currency : Currency,
    total (·.initial.pay.currency == currency) (·.initial.pay) documents.payables =
      total (·.initial.currency == currency) (·.initial) documents.payments

/-- Where nothing is left of even documents and nothing has been waived, they started balanced. -/
theorem Documents.balanced_of_even {start now : Documents} (start_exact : start.Exact)
    (now_exact : now.Exact) (later : Book.Later .leaveOpen start.book now.book) (even : now.Even)
    (payables_settled : ∀ payable ∈ now.payables, payable.remaining.pay.ticks = 0)
    (payments_settled : ∀ payment ∈ now.payments, payment.remaining.ticks = 0) :
    start.Balanced := by
  intro currency
  have payables : List.Forall₂
      (fun before after : Payable => before.initial.pay.SameValue after.allocated.pay)
      start.payables now.payables := by
    refine forall₂_of_map later.debts fun before before_mem after after_mem step => ?_
    have before_exact := (start_exact.payables before before_mem).initial.pay
    have after_exact := (now_exact.payables after after_mem).allocated.pay
    have currency_eq : after.currency = before.currency :=
      congrArg Debt.Terms.currency step.terms_eq
    have initial_eq : after.initial.pay.ticks = before.initial.pay.ticks :=
      congrArg (·.initial.pay) step.terms_eq
    have waived_eq : after.initial.pay.ticks - after.allocated.pay.ticks -
        after.remaining.pay.ticks = 0 := step.sound.waived_open rfl
    have nothing := payables_settled after after_mem
    rw [currency_eq] at after_exact
    exact (before_exact.sameValue_iff after_exact).mpr (by omega)
  have payments : List.Forall₂
      (fun before after : Payment => before.initial.SameValue after.allocated)
      start.payments now.payments := by
    refine forall₂_of_map later.funds fun before before_mem after after_mem step => ?_
    have before_exact := (start_exact.payments before before_mem).initial
    have after_exact := (now_exact.payments after after_mem).allocated
    have currency_eq : after.currency = before.currency :=
      congrArg Fund.Terms.currency step.terms_eq
    have initial_eq : after.initial.ticks = before.initial.ticks :=
      congrArg Fund.Terms.initial step.terms_eq
    have balance : after.allocated.ticks + after.remaining.ticks = after.initial.ticks :=
      step.sound.balance
    have nothing := payments_settled after after_mem
    rw [currency_eq] at after_exact
    exact (before_exact.sameValue_iff after_exact).mpr (by omega)
  calc
    total (·.initial.pay.currency == currency) (·.initial.pay) start.payables
        = total (·.allocated.pay.currency == currency) (·.allocated.pay) now.payables :=
      total_eq_of_forall₂ payables (fun _ _ same => congrArg (· == currency) same.2)
        fun _ _ same => Decimal.sameValue_iff.mp same.1
    _ = total (·.allocated.currency == currency) (·.allocated) now.payments := even currency
    _ = total (·.initial.currency == currency) (·.initial) start.payments :=
      (total_eq_of_forall₂ payments (fun _ _ same => congrArg (· == currency) same.2)
        fun _ _ same => Decimal.sameValue_iff.mp same.1).symm

/-! ## Builds -/

/-- What the verdict of a strict build says about the documents, `before` the build and as the
build has left them. -/
structure Build.StrictlyJudged {τ : Type} (before : Run) (build : Build τ) : Prop where
  /-- The documents stay in their order. -/
  payables_order : build.run.documents.payables.map Payable.reference =
    before.documents.payables.map Payable.reference
  payments_order : build.run.documents.payments.map Payment.reference =
    before.documents.payments.map Payment.reference
  /-- Whatever is returned carries the verdict. -/
  carried : ∀ result, build.result = .ok result → result.verdict = build.run.verdict
  /-- A dry run always returns. -/
  previewed : before.dryRun = true →
    build.result = .ok ⟨build.postings.map Posting.candidate, build.run.verdict, []⟩
  /-- A failed verdict stops a run that is not dry. -/
  raised : before.dryRun = false → ∀ documents, build.run.verdict = .failed documents →
    build.result = .error (.refused documents.error)
  /-- The verdict is passed when nothing is left to pay, and only then. -/
  passed_iff : build.run.verdict = .passed ↔
    (∀ payable ∈ build.run.documents.payables, payable.remaining.pay.amount.value = 0) ∧
      ∀ payment ∈ build.run.documents.payments, payment.remaining.amount.value = 0
  /-- A failed verdict names the open payables or, without any, the open payments. -/
  names : build.run.verdict.Names build.run.documents.openPayables
    build.run.documents.openPayments
  /-- A passed verdict leaves no discount and no write-off, and all that a payable started with has
  been allocated. -/
  complete : build.run.verdict = .passed → ∀ payable ∈ build.run.documents.payables,
    payable.remaining.discount.amount.value = 0 ∧ payable.remaining.writeOff.amount.value = 0 ∧
      payable.allocated.SameTotal payable.initial
  /-- A passed verdict where leftovers stay open says that the documents started balanced. -/
  balanced : build.run.verdict = .passed → before.settings.leftover = .leaveOpen →
    before.documents.Balanced

namespace Run

variable {τ : Type} [TransactionManager τ] {run : Run}

/-- However far a run over fresh documents has come, it has kept double entry. -/
theorem even_progress (fresh : run.documents.Fresh) : run.progress.documents.Even := by
  apply Documents.even_of_settled (progress_exact fresh).documents
  intro currency
  have kept := (progress_trail fresh).settled_eq (Weights.balanced_ofCurrency currency)
  exact kept.1.trans (fresh.settled_eq _)

/-- When nothing is left to pay of a payable, nothing else is left of it either: a run that has
come to its end has granted discount and write-off. -/
theorem complete_of_paid (fresh : run.documents.Fresh) (unbuilt : run.built = false)
    (settled : (run.documents.settle run.settings).2 = none) {payable : Payable}
    (mem : payable ∈ run.progress.documents.payables)
    (paid : payable.remaining.pay.amount.value = 0) :
    payable.remaining.discount.amount.value = 0 ∧ payable.remaining.writeOff.amount.value = 0 ∧
      payable.allocated.SameTotal payable.initial := by
  have exact := (progress_exact fresh).documents.payables payable mem
  have later := (progress_trail fresh).later (fresh.sound _)
  have sound := later.sound.debts payable.debt (List.mem_map_of_mem mem)
  obtain ⟨discount, writeOff⟩ := (exhausted_of_settled fresh unbuilt settled).extras payable mem
  have nothing : payable.debt.remaining = 0 :=
    Parts.ext (Money.value_eq_zero_iff.mp paid) ((Money.isZero_iff _).mp discount)
      ((Money.isZero_iff _).mp writeOff)
  exact ⟨(Decimal.isZero_iff_value _).mp discount, (Decimal.isZero_iff_value _).mp writeOff,
    Payable.sameTotal_of_settled exact sound nothing⟩

/-- Documents of which nothing is left have started balanced, if nothing has been waived. -/
theorem balanced_of_paid (fresh : run.documents.Fresh)
    (leaves_open : run.settings.leftover = .leaveOpen)
    (payables_paid : ∀ payable ∈ run.progress.documents.payables,
      payable.remaining.pay.amount.value = 0)
    (payments_paid : ∀ payment ∈ run.progress.documents.payments,
      payment.remaining.amount.value = 0) : run.documents.Balanced := by
  have later := (progress_trail fresh).later (fresh.sound _)
  rw [leaves_open] at later
  apply Documents.balanced_of_even fresh.exact (progress_exact fresh).documents later
    (even_progress fresh)
  · exact fun payable mem => Money.value_eq_zero_iff.mp (payables_paid payable mem)
  · exact fun payment mem => Money.value_eq_zero_iff.mp (payments_paid payment mem)

/-- The strict verdict on fresh documents whose candidates have been computed is exact, and
balances the documents when it is passed. -/
theorem build_judges (run : Run) (manager : Option τ) (fresh : run.documents.Fresh)
    (strict : run.settings.partialAllocations = false) (unbuilt : run.built = false)
    (settled : (run.documents.settle run.settings).2 = none) :
    (run.build manager).StrictlyJudged run := by
  have later := (progress_trail fresh).later (fresh.sound _)
  have covers := Documents.covers_of_later fresh.exact (progress_exact fresh).documents later
  have documents_eq : (run.build manager).run.documents = run.progress.documents := by
    rw [run_build]
  have names : (run.build manager).run.verdict.Names run.progress.documents.openPayables
      run.progress.documents.openPayments := by
    rw [run_build, verdict, if_neg (by simp [strict])]
    exact Verdict.ofDocuments_names _
  have passed_iff := names.passed_iff
  rw [Documents.openPayables_eq_nil_iff, Documents.openPayments_eq_nil_iff] at passed_iff
  exact
    { payables_order := by
        rw [documents_eq]
        exact forall₂_map_eq covers.payables fun _ _ step => step.reference_eq
      payments_order := by
        rw [documents_eq]
        exact forall₂_map_eq covers.payments fun _ _ step => step.reference_eq
      carried := fun result returned => (returns_of_result returned).verdict_eq
      previewed := fun dry => by
        rw [result_of_dry unbuilt dry settled, postings_build, run_build, Progress.candidates]
        rfl
      raised := fun wet documents failed => result_of_failed unbuilt wet settled failed
      passed_iff := by
        rw [documents_eq]
        exact passed_iff
      names := by
        rw [documents_eq]
        exact names
      complete := fun passed payable mem => by
        rw [documents_eq] at mem
        exact complete_of_paid fresh unbuilt settled mem ((passed_iff.mp passed).1 payable mem)
      balanced := fun passed leaves_open => by
        obtain ⟨payables_paid, payments_paid⟩ := passed_iff.mp passed
        exact balanced_of_paid fresh leaves_open payables_paid payments_paid }

end Run

/-- A strict run over an invoice with discount and write-off that a credit memo and a payment
settle between them. -/
def Samples.balancedRun : Run where
  documents :=
    { payables := [invoice 1 .sales false 10025 200 100, invoice 2 .sales true (-3050) 0 0]
      payments := [payment 3 .inbound 6975] }

theorem Samples.balancedRun_fresh : Samples.balancedRun.documents.Fresh where
  payables := by
    simp only [balancedRun, List.mem_cons, List.not_mem_nil, or_false, forall_eq_or_imp, forall_eq]
    exact ⟨invoice_fresh (by decide +kernel), invoice_fresh (by decide +kernel)⟩
  payments := by
    simp only [balancedRun, List.mem_singleton, forall_eq]
    exact payment_fresh (by decide) (by decide +kernel)

/-- The verdict on it is passed, before it is booked without the dates that booking needs. -/
theorem Run.build_judges_balanced :
    Samples.balancedRun.documents.Fresh ∧
      Samples.balancedRun.settings.partialAllocations = false ∧
      Samples.balancedRun.built = false ∧
      (Samples.balancedRun.documents.settle Samples.balancedRun.settings).2 = none ∧
      (Samples.balancedRun.build (none : Option MemoryManager)).run.verdict = .passed ∧
      Samples.balancedRun.settings.leftover = .leaveOpen ∧
      (Samples.balancedRun.build (none : Option MemoryManager)).StrictlyJudged
        Samples.balancedRun := by
  have settled : (Samples.balancedRun.documents.settle Samples.balancedRun.settings).2 = none := by
    decide +kernel
  have judged := build_judges Samples.balancedRun (none : Option MemoryManager)
    Samples.balancedRun_fresh rfl rfl settled
  exact ⟨Samples.balancedRun_fresh, rfl, rfl, settled, by decide +kernel, rfl, judged⟩

end Settlement
