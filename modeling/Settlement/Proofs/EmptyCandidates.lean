import Settlement.Proofs.Concessions
import Settlement.Proofs.Transitions

/-!
# Empty candidates

Two documents are only matched where both have something left, and the last pass skips payables
that carry no discount and no write-off.  But where a leftover is disposed of, what is left to pay
is moved to the discount or the write-off without asking what that comes to.  If the payable
carries just the opposite amount there, the candidate that settles it has nothing in any part.
These are the only empty candidates.
-/

namespace Settlement

/-! ## In ticks -/

namespace Book

variable {policy : LeftoverPolicy} {book : Book} {step : Step} {deal : Deal}

/-- A deal settles nothing when it disposes of a leftover that cancels out. -/
theorem Deals.parts_eq_zero_iff (sound : book.Sound policy) (dealt : Deals policy book step deal)
    (placed : book.Placed step) :
    deal.entry.parts = 0 ↔ ∃ index debt, step = .leftover index ∧
      book.debts[index]? = some debt ∧ (debt.move policy).remaining = 0 := by
  have nonzero : deal.entry.payment.isSome = true → deal.entry.parts ≠ 0 := by
    intro names_payment nothing
    obtain ⟨paid, paying, matched⟩ := dealt.matches sound placed names_payment
    exact matched.pay_ne (congrArg Parts.pay nothing)
  cases dealt with
  | pair debt_eq source_eq debt_open source_open fits =>
      exact iff_of_false (nonzero rfl) (by simp)
  | leftover debt_eq debt_open moves =>
      rename_i index debt
      constructor
      · exact fun nothing => ⟨index, debt, rfl, debt_eq, nothing⟩
      · rintro ⟨other, found, same, found_eq, nothing⟩
        cases same
        obtain rfl := Option.some.inj (debt_eq.symm.trans found_eq)
        exact nothing
  | reverse received_eq made_eq received_open made_open currency_eq =>
      exact iff_of_false (nonzero rfl) (by simp)
  | remainder debt_eq carries => exact iff_of_false carries (by simp)

theorem Deals.leftover_open {index : Nat} (dealt : Deals policy book (.leftover index) deal)
    {debt : Debt} (debt_eq : book.debts[index]? = some debt) :
    debt.IsOpen ∧ policy ≠ .leaveOpen := by
  cases dealt with
  | leftover payee_eq payee_open moves =>
      obtain rfl := Option.some.inj (debt_eq.symm.trans payee_eq)
      exact ⟨payee_open, moves⟩

theorem Deals.remainder_pay {index : Nat} (dealt : Deals policy book (.remainder index) deal)
    {debt found : Debt} (debt_eq : book.debts[index]? = some debt)
    (found_eq : deal.after.debts[index]? = some found) :
    found.remaining.pay = debt.remaining.pay := by
  cases dealt with
  | remainder payee_eq carries =>
      rename_i payee
      have charged := getElem?_charge index { payee.remaining with pay := 0 } debt_eq
      obtain rfl := Option.some.inj (charged.symm.trans found_eq)
      rw [if_pos rfl]
      exact sub_zero debt.remaining.pay

end Book

/-- A move settles nothing when it clears an open debt of which what is left to pay cancels against
the part that it is moved to. -/
theorem Move.Made.parts_eq_zero_iff {policy : LeftoverPolicy} {start : Book} {move : Move}
    (made : move.Made policy start) :
    move.deal.entry.parts = 0 ↔ ∃ place debt, move.Concedes place ∧
      move.before.debts[place]? = some debt ∧ debt.IsOpen ∧ policy ≠ .leaveOpen ∧
      (debt.move policy).remaining = 0 ∧ move.deal.after.Cleared place := by
  obtain ⟨step, placed, dealt⟩ := made.step
  rw [dealt.parts_eq_zero_iff made.later.sound placed]
  constructor
  · rintro ⟨index, debt, rfl, debt_eq, nothing⟩
    obtain ⟨place, concedes⟩ := dealt.concedes placed dealt.kind_eq
    obtain rfl : index = place := by simpa using dealt.step_of_concedes placed concedes
    obtain ⟨debt_open, moves⟩ := dealt.leftover_open debt_eq
    exact ⟨index, debt, concedes, debt_eq, debt_open, moves, nothing, dealt.cleared⟩
  · rintro ⟨place, debt, concedes, debt_eq, debt_open, -, nothing, cleared⟩
    rcases dealt.step_of_concedes placed concedes with rfl | rfl
    · exact ⟨place, debt, rfl, debt_eq, nothing⟩
    · obtain ⟨found, found_eq, -⟩ := forall₂_getElem? made.leaves.debts debt_eq
      have kept := dealt.remainder_pay debt_eq found_eq
      rw [cleared found found_eq] at kept
      exact absurd kept.symm debt_open

/-- The part that the policy moves leftovers to starts on the other side of zero than the pay
amount. -/
def Debt.Terms.Opposed (terms : Debt.Terms) : LeftoverPolicy → Prop
  | .leaveOpen => False
  | .discount => terms.initial.discount * terms.initial.pay < 0
  | .writeOff => terms.initial.writeOff * terms.initial.pay < 0

/-- Amounts of which one has been left as it was and the other has become a part start on opposite
sides of zero when they cancel. -/
theorem mul_neg_of_cancel {amount part whole : Int} (part_ne : part ≠ 0)
    (within : Within part whole) (cancel : amount + part = 0) : amount * whole < 0 := by
  unfold Within at within
  rcases lt_or_gt_of_ne part_ne with negative | positive
  · exact mul_neg_of_pos_of_neg (by omega) (by omega)
  · exact mul_neg_of_neg_of_pos (by omega) (by omega)

/-- Only a debt that starts with opposed amounts can cancel out. -/
theorem Debt.Sound.opposed {policy : LeftoverPolicy} {debt : Debt} (sound : debt.Sound policy)
    (debt_open : debt.IsOpen) (moves : policy ≠ .leaveOpen)
    (nothing : (debt.move policy).remaining = 0) : debt.toTerms.Opposed policy := by
  have within := sound.remaining_within
  cases policy with
  | leaveOpen => exact moves rfl
  | discount =>
      have cancel : debt.remaining.discount + debt.remaining.pay = 0 :=
        congrArg Parts.discount nothing
      have kept : debt.remaining.discount = debt.initial.discount := by
        rcases sound.extras with ⟨kept, -⟩ | ⟨taken, -⟩
        · exact kept
        · exact absurd (by omega) debt_open
      exact mul_neg_of_cancel debt_open within (kept ▸ cancel)
  | writeOff =>
      have cancel : debt.remaining.writeOff + debt.remaining.pay = 0 :=
        congrArg Parts.writeOff nothing
      have kept : debt.remaining.writeOff = debt.initial.writeOff := by
        rcases sound.extras with ⟨-, kept⟩ | ⟨-, taken⟩
        · exact kept
        · exact absurd (by omega) debt_open
      exact mul_neg_of_cancel debt_open within (kept ▸ cancel)

/-! ## Payables that cancel out -/

namespace Payable

/-- What is left to pay of a payable cancels against the part that the policy moves it to, and
nothing is left in the other one. -/
def CancelsOut (payable : Payable) : LeftoverPolicy → Prop
  | .leaveOpen => False
  | .discount =>
      payable.remaining.discount.amount.value = -payable.remaining.pay.amount.value ∧
        payable.remaining.writeOff.amount.value = 0
  | .writeOff =>
      payable.remaining.writeOff.amount.value = -payable.remaining.pay.amount.value ∧
        payable.remaining.discount.amount.value = 0

/-- The part that the policy moves leftovers to starts on the other side of zero than the pay
amount. -/
def Opposed (payable : Payable) : LeftoverPolicy → Prop
  | .leaveOpen => False
  | .discount =>
      payable.initial.discount.amount.value * payable.initial.pay.amount.value < 0
  | .writeOff =>
      payable.initial.writeOff.amount.value * payable.initial.pay.amount.value < 0

variable {payable : Payable} {policy : LeftoverPolicy}

theorem cancelsOut_iff (exact : payable.Exact) :
    payable.CancelsOut policy ↔
      policy ≠ .leaveOpen ∧ (payable.debt.move policy).remaining = 0 := by
  have places_ne : (tenTo Money.places : Rat) ≠ 0 := (Decimal.tenTo_rat_pos _).ne'
  have opposite_iff : ∀ money : Money, money.Exact payable.currency →
      (money.amount.value = -payable.remaining.pay.amount.value ↔
        money.ticks + payable.remaining.pay.ticks = 0) := by
    intro money money_exact
    rw [money_exact.value_eq, exact.remaining.pay.value_eq, ← neg_div, div_left_inj' places_ne,
      ← Int.cast_neg, Int.cast_inj, eq_neg_iff_add_eq_zero]
  cases policy with
  | leaveOpen => simp [CancelsOut]
  | discount =>
      rw [CancelsOut, opposite_iff _ exact.remaining.discount, Money.value_eq_zero_iff]
      simp [Debt.move, Parts.ext_iff, debt]
  | writeOff =>
      rw [CancelsOut, opposite_iff _ exact.remaining.writeOff, Money.value_eq_zero_iff]
      simp [Debt.move, Parts.ext_iff, debt, and_comm]

theorem opposed_of_debt (exact : payable.Exact) (opposed : payable.debt.toTerms.Opposed policy) :
    payable.Opposed policy := by
  have places_pos : (0 : Rat) < tenTo Money.places := Decimal.tenTo_rat_pos _
  have mul_neg : ∀ money other : Money, money.Exact payable.currency →
      other.Exact payable.currency → money.ticks * other.ticks < 0 →
        money.amount.value * other.amount.value < 0 := by
    intro money other money_exact other_exact negative
    rw [money_exact.value_eq, other_exact.value_eq, div_mul_div_comm]
    exact div_neg_of_neg_of_pos (by exact_mod_cast negative) (mul_pos places_pos places_pos)
  cases policy with
  | leaveOpen => exact opposed
  | discount => exact mul_neg _ _ exact.initial.discount exact.initial.pay opposed
  | writeOff => exact mul_neg _ _ exact.initial.writeOff exact.initial.pay opposed

end Payable

/-- A transition disposes of a leftover that cancels out: the payable at a place has been open, what
was left to pay of it cancels against the part that the policy moves it to, and nothing is left. -/
structure Transition.CancelsOut (policy : LeftoverPolicy) (transition : Transition) (place : Nat) :
    Prop where
  concedes : transition.Concedes place
  cancels : ∃ payable, transition.before.payables[place]? = some payable ∧
    payable.isFullyAllocated = false ∧ payable.CancelsOut policy
  cleared : ∃ payable, transition.after.payables[place]? = some payable ∧
    payable.remaining.isZero = true

/-! ## Builds -/

/-- When a build proposes an empty candidate. -/
structure Build.EmptyWhenCancelled {τ : Type} (before : Run) (build : Build τ) : Prop where
  /-- A candidate is empty where a leftover cancels out, and nowhere else. -/
  empty_iff : ∀ transition ∈ build.transitions before.documents,
    transition.candidate.amounts.isZero = true ↔
      ∃ place, transition.CancelsOut before.settings.leftover place
  /-- No candidate is empty unless a payable starts with opposed amounts. -/
  nonempty : (∀ payable ∈ before.documents.payables, ¬payable.Opposed before.settings.leftover) →
    ∀ candidate ∈ build.postings.map Posting.candidate, candidate.amounts.isZero = false

namespace Run

variable {τ : Type} [TransactionManager τ] {run : Run}

theorem isZero_iff_cancelsOut (manager : Option τ) (fresh : run.documents.Fresh) :
    ∀ transition ∈ (run.build manager).transitions run.documents,
      transition.candidate.amounts.isZero = true ↔
        ∃ place, transition.CancelsOut run.settings.leftover place := by
  intro transition mem
  have exact := transitions_exact manager fresh transition mem
  have made := transitions_made manager fresh transition mem
  have concedes_iff := concedes_iff_move manager fresh mem
  have parts_eq : transition.candidate.amounts.parts = transition.move.deal.entry.parts := rfl
  rw [Amounts.isZero_iff, parts_eq, made.parts_eq_zero_iff]
  refine exists_congr fun place => ?_
  constructor
  · rintro ⟨debt, concedes, debt_eq, debt_open, moves, nothing, cleared⟩
    obtain ⟨payable, payable_eq, rfl⟩ := Documents.debt_eq_some_iff.mp debt_eq
    have payable_exact := exact.before.payable_exact payable_eq
    have concedes := (concedes_iff place).mpr concedes
    obtain ⟨-, changed, -, changed_eq, -⟩ := concedes.changes
    refine ⟨concedes, ⟨payable, payable_eq, ?_, ?_⟩, changed, changed_eq, ?_⟩
    · rw [← Bool.not_eq_true, payable.isFullyAllocated_iff]
      exact not_not.mpr debt_open
    · exact (Payable.cancelsOut_iff payable_exact).mpr ⟨moves, nothing⟩
    · exact (Amounts.isZero_iff _).mpr (cleared _ (Documents.debt_of_payable changed_eq))
  · rintro ⟨concedes, ⟨payable, payable_eq, still_open, cancels⟩, changed, changed_eq, cleared⟩
    have payable_exact := exact.before.payable_exact payable_eq
    obtain ⟨moves, nothing⟩ := (Payable.cancelsOut_iff payable_exact).mp cancels
    refine ⟨payable.debt, (concedes_iff place).mp concedes, Documents.debt_of_payable payable_eq,
      ?_, moves, nothing, ?_⟩
    · rwa [← Bool.not_eq_true, payable.isFullyAllocated_iff, not_not] at still_open
    · intro debt debt_eq
      have found_eq : transition.move.deal.after.debts[place]? = some changed.debt :=
        Documents.debt_of_payable changed_eq
      obtain rfl := Option.some.inj (found_eq.symm.trans debt_eq)
      exact (Amounts.isZero_iff _).mp cleared

/-- A payable that cancels out has started with opposed amounts. -/
theorem opposed_of_cancelsOut (manager : Option τ) (fresh : run.documents.Fresh)
    {transition : Transition} (mem : transition ∈ (run.build manager).transitions run.documents)
    {place : Nat} (cancelled : transition.CancelsOut run.settings.leftover place) :
    ∃ payable ∈ run.documents.payables, payable.Opposed run.settings.leftover := by
  have exact := transitions_exact manager fresh transition mem
  have later : Book.Later run.settings.leftover run.documents.book transition.before.book :=
    (transitions_made manager fresh transition mem).later
  obtain ⟨payable, payable_eq, still_open, cancels⟩ := cancelled.cancels
  have debt_eq := Documents.debt_of_payable payable_eq
  obtain ⟨moves, nothing⟩ :=
    (Payable.cancelsOut_iff (exact.before.payable_exact payable_eq)).mp cancels
  rw [← Bool.not_eq_true, payable.isFullyAllocated_iff, not_not] at still_open
  have opposed := (later.sound.debt debt_eq).opposed still_open moves nothing
  obtain ⟨debt, start_eq, step⟩ := forall₂_getElem?_right later.debts debt_eq
  obtain ⟨given, given_eq, rfl⟩ := Documents.debt_eq_some_iff.mp start_eq
  have given_mem := List.mem_of_getElem? given_eq
  exact ⟨given, given_mem, Payable.opposed_of_debt (fresh.exact.payables given given_mem)
    (step.terms_eq ▸ opposed)⟩

/-- A build of fresh documents proposes an empty candidate only where a leftover cancels out. -/
theorem build_empty_candidates (run : Run) (manager : Option τ) (fresh : run.documents.Fresh) :
    (run.build manager).EmptyWhenCancelled run where
  empty_iff := isZero_iff_cancelsOut manager fresh
  nonempty unopposed candidate mem := by
    rw [← candidates_transitions] at mem
    obtain ⟨transition, transition_mem, rfl⟩ := List.mem_map.mp mem
    rw [← Bool.not_eq_true, isZero_iff_cancelsOut manager fresh transition transition_mem]
    rintro ⟨place, cancelled⟩
    obtain ⟨payable, payable_mem, opposed⟩ :=
      opposed_of_cancelsOut manager fresh transition_mem cancelled
    exact unopposed payable payable_mem opposed

end Run

/-- A dry run that writes leftovers off, over an invoice whose write-off is the opposite of its pay
amount and a payment that does not fit the invoice. -/
def Samples.cancelling : Run where
  documents :=
    { payables := [invoice 1 .sales false 10000 0 (-10000)]
      payments := [payment 2 .outbound 2000] }
  settings := { leftover := .writeOff, partialAllocations := true }
  dryRun := true

theorem Samples.cancelling_fresh : Samples.cancelling.documents.Fresh where
  payables := by
    simp only [cancelling, List.mem_singleton, forall_eq]
    exact invoice_fresh (by decide +kernel)
  payments := by
    simp only [cancelling, List.mem_singleton, forall_eq]
    exact payment_fresh (by decide) (by decide +kernel)

/-- A build of fresh documents can propose a candidate with nothing in any part. -/
theorem Run.build_empty_candidate_cancelling :
    Samples.cancelling.documents.Fresh ∧
      ∃ result, (Samples.cancelling.build (none : Option MemoryManager)).result = .ok result ∧
        ∃ candidate ∈ result.candidates, candidate.amounts.pay.amount.value = 0 ∧
          candidate.amounts.discount.amount.value = 0 ∧
          candidate.amounts.writeOff.amount.value = 0 := by
  have ended : (Samples.cancelling.documents.settle Samples.cancelling.settings).2 = none := by
    decide +kernel
  have returned : (Samples.cancelling.build (none : Option MemoryManager)).result = .ok _ :=
    result_of_dry rfl rfl ended
  exact ⟨Samples.cancelling_fresh, _, returned, by decide +kernel⟩

/-- The run proposes one empty candidate, for the leftover that cancels out; a run without opposed
amounts proposes none. -/
theorem Run.build_empty_candidates_samples :
    Samples.cancelling.documents.Fresh ∧
      ((Samples.cancelling.build (none : Option MemoryManager)).postings.map fun posting =>
          posting.candidate.amounts.isZero) = [true] ∧
      (Samples.cancelling.build (none : Option MemoryManager)).EmptyWhenCancelled
        Samples.cancelling ∧
      Samples.writingOff.documents.Fresh ∧
      (∀ payable ∈ Samples.writingOff.documents.payables,
        ¬payable.Opposed Samples.writingOff.settings.leftover) ∧
      ∀ candidate ∈ (Samples.writingOff.build (none : Option MemoryManager)).postings.map
          Posting.candidate, candidate.amounts.isZero = false := by
  have unopposed : ∀ payable ∈ Samples.writingOff.documents.payables,
      ¬payable.Opposed Samples.writingOff.settings.leftover := by
    show ∀ payable ∈ Samples.writingOff.documents.payables,
      ¬payable.initial.writeOff.amount.value * payable.initial.pay.amount.value < 0
    decide +kernel
  exact ⟨Samples.cancelling_fresh, by decide +kernel,
    build_empty_candidates Samples.cancelling none Samples.cancelling_fresh,
    Samples.documents_fresh, unopposed,
    (build_empty_candidates Samples.writingOff (none : Option MemoryManager)
      Samples.documents_fresh).nonempty unopposed⟩

end Settlement
