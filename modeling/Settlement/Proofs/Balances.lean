import Mathlib.Data.Sign.Basic
import Settlement.Proofs.Exact.Builds
import Settlement.Proofs.Values.Decimal

/-!
# Balances are never overdrawn

From the first posting to the end of a build, whatever it returns, what is left of a document and
what has been allocated to it lie between nothing and the amount that the document started with,
and what is left only shrinks.
-/

namespace Settlement

/-- A number lies between zero and a bound: it has no other sign and no larger magnitude. -/
def Decimal.StaysWithin (number bound : Decimal) : Prop :=
  (0 ≤ number.value ∧ number.value ≤ bound.value) ∨
    (bound.value ≤ number.value ∧ number.value ≤ 0)

/-- What a payable has become covers no more than what it was: the initial amount is the same, and
the balances of its pay amount lie between zero and that. -/
structure Payable.Covers (start now : Payable) : Prop where
  reference_eq : now.reference = start.reference
  initial_eq : now.initial.pay.amount.value = start.initial.pay.amount.value
  remaining : now.remaining.pay.amount.StaysWithin start.initial.pay.amount
  allocated : now.allocated.pay.amount.StaysWithin start.initial.pay.amount

/-- What a payment has become covers no more than what it was. -/
structure Payment.Covers (start now : Payment) : Prop where
  reference_eq : now.reference = start.reference
  initial_eq : now.initial.amount.value = start.initial.amount.value
  remaining : now.remaining.amount.StaysWithin start.initial.amount
  allocated : now.allocated.amount.StaysWithin start.initial.amount

namespace Documents

/-- The documents are the same, and none is overdrawn or flipped. -/
structure Covers (start now : Documents) : Prop where
  payables : List.Forall₂ Payable.Covers start.payables now.payables
  payments : List.Forall₂ Payment.Covers start.payments now.payments

/-- Nothing that is left of a document has grown. -/
structure Shrinks (before after : Documents) : Prop where
  payables : List.Forall₂
    (fun before after : Payable =>
      |after.remaining.pay.amount.value| ≤ |before.remaining.pay.amount.value|)
    before.payables after.payables
  payments : List.Forall₂
    (fun before after : Payment =>
      |after.remaining.amount.value| ≤ |before.remaining.amount.value|)
    before.payments after.payments

end Documents

/-- The documents before a build, after each of its postings, and at its end. -/
def Build.stages {τ : Type} (build : Build τ) (start : Documents) : List Documents :=
  start :: (build.postings.map Posting.documents ++ [build.run.documents])

/-! ## From ticks to values -/

/-- An exact amount has the sign of its ticks. -/
theorem Money.Exact.sign_value {currency : Currency} {money : Money}
    (exact : money.Exact currency) :
    (SignType.sign money.amount.value : Int) = money.ticks.sign := by
  rw [exact.value_eq, div_eq_mul_inv, sign_mul,
    sign_pos (inv_pos.mpr (Decimal.tenTo_rat_pos _)), mul_one, sign_intCast, Int.sign_eq_sign]

theorem Money.value_eq_zero_iff {money : Money} :
    money.amount.value = 0 ↔ money.ticks = 0 :=
  (Decimal.isZero_iff_value _).symm.trans money.isZero_iff

/-- Exact amounts in one currency are the same money when their ticks are the same. -/
theorem Money.Exact.sameValue_iff {currency : Currency} {money other : Money}
    (exact : money.Exact currency) (other_exact : other.Exact currency) :
    money.SameValue other ↔ money.ticks = other.ticks := by
  have places_ne : (tenTo Money.places : Rat) ≠ 0 := (Decimal.tenTo_rat_pos _).ne'
  rw [Money.SameValue, Decimal.sameValue_iff, exact.value_eq, other_exact.value_eq,
    div_left_inj' places_ne, Int.cast_inj,
    and_iff_left (exact.currency_eq.trans other_exact.currency_eq.symm)]

theorem Amounts.Exact.sameValue_iff {currency : Currency} {amounts other : Amounts}
    (exact : amounts.Exact currency) (other_exact : other.Exact currency) :
    amounts.SameValue other ↔ amounts.parts = other.parts := by
  rw [Amounts.SameValue, exact.pay.sameValue_iff other_exact.pay,
    exact.discount.sameValue_iff other_exact.discount,
    exact.writeOff.sameValue_iff other_exact.writeOff, Parts.ext_iff]
  rfl

theorem Money.staysWithin {currency currency' : Currency} {money bound : Money}
    (exact : money.Exact currency) (bound_exact : bound.Exact currency')
    (within : Within money.ticks bound.ticks) : money.amount.StaysWithin bound.amount := by
  have positive : (0 : Rat) < tenTo places := by exact_mod_cast tenTo_pos places
  rw [Decimal.StaysWithin, exact.value_eq, bound_exact.value_eq,
    div_le_div_iff_of_pos_right positive, div_le_div_iff_of_pos_right positive,
    le_div_iff₀ positive, div_le_iff₀ positive, zero_mul]
  exact_mod_cast within

theorem Money.abs_value_le {currency currency' : Currency} {money bound : Money}
    (exact : money.Exact currency) (bound_exact : bound.Exact currency')
    (within : Within money.ticks bound.ticks) : |money.amount.value| ≤ |bound.amount.value| := by
  rw [Decimal.abs_value exact.grid, Decimal.abs_value bound_exact.grid,
    div_le_div_iff_of_pos_right (by norm_num)]
  exact_mod_cast within.natAbs_le

/-- A later debt is read from a payable that covers no more. -/
theorem Payable.covers {policy : LeftoverPolicy} {start now : Payable} (start_exact : start.Exact)
    (now_exact : now.Exact) (later : Debt.Later policy start.debt now.debt) :
    start.Covers now := by
  have initial_eq : now.debt.initial = start.debt.initial :=
    congrArg Debt.Terms.initial later.terms_eq
  have pay_eq : now.initial.pay.ticks = start.initial.pay.ticks := congrArg Parts.pay initial_eq
  have remaining_within := later.sound.remaining_within
  have allocated_within := later.sound.allocated_within
  rw [initial_eq] at remaining_within allocated_within
  exact
    { reference_eq := congrArg Debt.Terms.reference later.terms_eq
      initial_eq := by rw [now_exact.initial.pay.value_eq, start_exact.initial.pay.value_eq, pay_eq]
      remaining := Money.staysWithin now_exact.remaining.pay start_exact.initial.pay
        remaining_within
      allocated := Money.staysWithin now_exact.allocated.pay start_exact.initial.pay
        allocated_within }

/-- A later fund is read from a payment that covers no more. -/
theorem Payment.covers {start now : Payment} (start_exact : start.Exact)
    (now_exact : now.Exact) (later : Fund.Later start.fund now.fund) : start.Covers now := by
  have initial_eq : now.initial.ticks = start.initial.ticks :=
    congrArg Fund.Terms.initial later.terms_eq
  have remaining_within := later.sound.remaining_within
  have allocated_within := later.sound.allocated_within
  have fund_initial : now.fund.initial = start.initial.ticks := initial_eq
  rw [fund_initial] at remaining_within allocated_within
  exact
    { reference_eq := congrArg Fund.Terms.reference later.terms_eq
      initial_eq := by rw [now_exact.initial.value_eq, start_exact.initial.value_eq, initial_eq]
      remaining := Money.staysWithin now_exact.remaining start_exact.initial remaining_within
      allocated := Money.staysWithin now_exact.allocated start_exact.initial allocated_within }

namespace Documents

variable {policy : LeftoverPolicy} {before after : Documents}

theorem covers_of_later (before_exact : before.Exact) (after_exact : after.Exact)
    (later : Book.Later policy before.book after.book) : before.Covers after where
  payables := forall₂_of_map later.debts fun left left_mem right right_mem step =>
    Payable.covers (before_exact.payables left left_mem) (after_exact.payables right right_mem)
      step
  payments := forall₂_of_map later.funds fun left left_mem right right_mem step =>
    Payment.covers (before_exact.payments left left_mem) (after_exact.payments right right_mem)
      step

theorem shrinks_of_later (before_exact : before.Exact) (after_exact : after.Exact)
    (later : Book.Later policy before.book after.book) : before.Shrinks after where
  payables := forall₂_of_map later.debts fun left left_mem right right_mem step =>
    Money.abs_value_le (after_exact.payables right right_mem).remaining.pay
      (before_exact.payables left left_mem).remaining.pay step.pay
  payments := forall₂_of_map later.funds fun left left_mem right right_mem step =>
    Money.abs_value_le (after_exact.payments right right_mem).remaining
      (before_exact.payments left left_mem).remaining step.remaining

end Documents

/-! ## The balances of a build -/

namespace Run

variable {τ : Type} [TransactionManager τ]

theorem stages_build (run : Run) (manager : Option τ) :
    (run.build manager).stages run.documents =
      run.documents :: (run.progress.postings.map Posting.documents ++
        [run.progress.documents]) := by
  rw [Build.stages, postings_build, run_build]

theorem exact_of_mem_stages {run : Run} (manager : Option τ) (fresh : run.documents.Fresh) :
    ∀ documents ∈ (run.build manager).stages run.documents, documents.Exact := by
  have exact := progress_exact fresh
  intro documents mem
  rw [stages_build, List.mem_cons, List.mem_append, List.mem_map, List.mem_singleton] at mem
  rcases mem with rfl | ⟨posting, posting_mem, rfl⟩ | rfl
  · exact fresh.exact
  · exact (exact.postings posting posting_mem).documents
  · exact exact.documents

/-- The books of the stages of a build become later and later. -/
theorem stages_later {run : Run} (manager : Option τ) (fresh : run.documents.Fresh) :
    ((run.build manager).stages run.documents).Pairwise fun before after =>
      Book.Later run.settings.leftover before.book after.book := by
  have later := (progress_trail fresh).stages_later (fresh.sound _)
  have books : ((run.build manager).stages run.documents).map Documents.book =
      run.progress.history.stages run.documents.book ++ [run.progress.history.book] := by
    rw [stages_build]
    simp [History.stages, Progress.history, Posting.deal]
  rw [← books] at later
  exact List.pairwise_map.mp later

/-- No build of fresh documents ever overdraws or flips one: at every stage what is left and what
has been allocated lie between zero and the initial amount, and what is left only shrinks from
stage to stage. -/
theorem build_never_overdraws (run : Run) (manager : Option τ) (fresh : run.documents.Fresh) :
    (∀ documents ∈ (run.build manager).stages run.documents, run.documents.Covers documents) ∧
      ((run.build manager).stages run.documents).Pairwise Documents.Shrinks := by
  have exact := exact_of_mem_stages manager fresh
  have later := stages_later manager fresh
  refine ⟨?_, ?_⟩
  · intro documents mem
    have reached : Book.Later run.settings.leftover run.documents.book documents.book := by
      rcases List.mem_cons.mp mem with rfl | after
      · exact .refl (fresh.sound _)
      · exact (List.pairwise_cons.mp later).1 documents after
    exact Documents.covers_of_later fresh.exact (exact documents mem) reached
  · exact later.imp_of_mem fun before_mem after_mem step =>
      Documents.shrinks_of_later (exact _ before_mem) (exact _ after_mem) step

/-- A run over the samples posts along four passes, and none of them overdraws a document. -/
theorem build_never_overdraws_samples :
    Samples.documents.Fresh ∧
      ((Samples.run.build (none : Option MemoryManager)).postings.map fun posting =>
          posting.candidate.kind) =
        [.invoiceToCreditMemo, .salesInvoiceToPurchaseInvoice, .invoiceToPayment,
          .inboundPaymentToOutboundPayment, .invoiceDiscountOrWriteOff] ∧
      (∀ documents ∈
          (Samples.run.build (none : Option MemoryManager)).stages Samples.run.documents,
        Samples.run.documents.Covers documents) ∧
      ((Samples.run.build (none : Option MemoryManager)).stages
        Samples.run.documents).Pairwise Documents.Shrinks := by
  refine ⟨Samples.documents_fresh, ?_,
    build_never_overdraws Samples.run none Samples.documents_fresh⟩
  rw [postings_build]
  exact kinds_samples

end Run
end Settlement
