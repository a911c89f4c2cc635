import Settlement.Proofs.Exact.Rearranged

/-!
# What is paid in one direction

A pairing pays above zero where its debt started above zero, and below zero where the debt started
below.  A pass of payments therefore pays in each direction what it settles of the debts of that
direction.  Where there are no credit memos and nothing is compensated, the payments come first, and
the reversals find what they have left.
-/

namespace Settlement

/-- A payment pays in a currency and a direction. -/
def Entry.PaysToward (currency : Currency) (direction : Direction) (entry : Entry) : Prop :=
  entry.kind = .invoiceToPayment ∧ entry.currency = currency ∧
    entry.parts.pay.sign = direction.sign

instance (currency : Currency) (direction : Direction) (entry : Entry) :
    Decidable (entry.PaysToward currency direction) :=
  inferInstanceAs (Decidable (_ ∧ _ ∧ _))

namespace History

variable {policy : LeftoverPolicy} {history : History}

/-- Payments settle of the debts of a direction what they pay in it. -/
theorem settled_payments (sound : history.book.Sound policy) (currency : Currency)
    (direction : Direction) :
    (history.afterPass policy .payments).book.settled
          (.ofDebts (fun _ => true) currency direction) -
        history.book.settled (.ofDebts (fun _ => true) currency direction) =
      direction.sign *
        ((history.afterPass policy .payments).paidBy (Entry.PaysToward currency direction) -
          history.paidBy (Entry.PaysToward currency direction)) := by
  apply runAll_gainBy sound (Book.placed_steps sound .payments)
  intro book step deal mem book_sound here dealt
  rcases dealt.pairing_cases book_sound here mem with ⟨kind_eq, kept⟩ | ⟨debt, source, paired⟩
  · have other : ¬deal.entry.PaysToward currency direction := by
      rintro ⟨same, -⟩
      cases kind_eq.symm.trans same
    rw [kept, if_neg other, mul_zero, add_zero]
  · have counts : (Weights.ofDebts (fun _ => true) currency direction).debt debt.toTerms +
        (Weights.ofDebts (fun _ => true) currency direction).source source =
        if deal.entry.PaysToward currency direction then direction.sign else 0 := by
      have used := paired.pays
      cases source with
      | fund fund =>
          simp [Weights.source, Weights.ofDebts, Entry.PaysToward, paired.kind_eq,
            paired.currency_eq, paired.pay_sign]
      | creditMemo memo => cases used
      | purchaseInvoice bill => cases used
    rw [paired.settled_eq, counts]
    split_ifs <;> ring

/-! ## Passes -/

/-- Passes that come to their end have come to the end of the first of them. -/
theorem ended_cons {pass : Pass} {rest : List Pass}
    (ended : (history.runPasses policy (pass :: rest)).2 = none) :
    (history.runAll policy (history.book.steps pass)).2 = none ∧
      history.runPasses policy (pass :: rest) =
        (history.afterPass policy pass).runPasses policy rest := by
  rw [runPasses] at ended ⊢
  exact proceed_ended ended

/-- Payments that come to their end exchange. -/
theorem exchanges_payments (sound : history.book.Sound policy)
    (ended : (history.runAll policy (history.book.steps .payments)).2 = none) :
    Exchanges .invoiceToPayment
      (policy ≠ .leaveOpen ∧ (List.range history.book.funds.length).map Means.payment ≠ []) history
      (history.afterPass policy .payments) :=
  exchanges_of_ended sound ended rfl (Book.pairs_payments history.book) (by decide)

/-- Payments settle in every direction the smaller of what is owed and what is paid. -/
theorem payments_paysToward (sound : history.book.Sound policy)
    (ended : (history.runAll policy (history.book.steps .payments)).2 = none)
    (currency : Currency) (direction : Direction) :
    (history.afterPass policy .payments).paidBy (Entry.PaysToward currency direction) =
      history.paidBy (Entry.PaysToward currency direction) +
        direction.sign *
          min (history.book.outstanding (.ofDebts (fun _ => true) currency direction))
            (history.book.outstanding (.ofFunds currency direction)) := by
  have toward := settled_payments sound currency direction
  have settled := (exchanges_payments sound ended).pool (Weights.pool_payments currency direction)
  rw [settled, add_sub_cancel_left] at toward
  rw [toward, ← mul_assoc]
  have squared : direction.sign * direction.sign = 1 := by cases direction <;> rfl
  rw [squared, one_mul]
  exact (add_sub_cancel _ _).symm

/-- They take that off the payments of the direction. -/
theorem payments_left (sound : history.book.Sound policy)
    (ended : (history.runAll policy (history.book.steps .payments)).2 = none)
    (currency : Currency) (direction : Direction) :
    (history.afterPass policy .payments).book.outstanding (.ofFunds currency direction) =
      history.book.outstanding (.ofFunds currency direction) -
        min (history.book.outstanding (.ofDebts (fun _ => true) currency direction))
          (history.book.outstanding (.ofFunds currency direction)) := by
  have exchanges := exchanges_payments sound ended
  have pools := Weights.pool_payments currency direction
  have settled := exchanges.pool pools
  have even := exchanges.gain (pools.even currency)
  have kept := exchanges.kept (.ofFunds currency direction) fun _ _ counts => absurd rfl counts
  simp only [Book.settled, Book.weigh_add, Book.weigh_neg, zero_mul] at settled even kept
  omega

/-- Reversals pay the smaller of what is left in both directions, below zero. -/
theorem reversals_paid (sound : history.book.Sound policy)
    (ended : (history.runAll policy (history.book.steps .reversals)).2 = none)
    (currency : Currency) :
    (history.afterPass policy .reversals).paid .inboundPaymentToOutboundPayment currency =
      history.paid .inboundPaymentToOutboundPayment currency -
        min (history.book.outstanding (.ofFunds currency .inbound))
          (history.book.outstanding (.ofFunds currency .outbound)) := by
  have offsets := offsets_reversals sound ended
  have gain := offsets.gain currency .inbound
  rw [offsets.pool] at gain
  unfold afterPass
  omega

/-- Only payments pay in a direction. -/
theorem paysToward_afterPass (sound : history.book.Sound policy) {pass : Pass}
    (others : ∀ step ∈ history.book.steps pass, step.kind ≠ .invoiceToPayment)
    (currency : Currency) (direction : Direction) :
    (history.afterPass policy pass).paidBy (Entry.PaysToward currency direction) =
      history.paidBy (Entry.PaysToward currency direction) := by
  apply runAll_paidBy sound (Book.placed_steps sound pass)
  rintro step mem entry kind_eq ⟨same, -⟩
  exact others step mem (kind_eq.symm.trans same)

end History

namespace Book

variable {settings : Settings} {book : Book}

/-- The history of a book after its debts have been paired with its funds. -/
def afterPayments (policy : LeftoverPolicy) (book : Book) : History :=
  ({ book } : History).afterPass policy .payments

/-- Without credit memos, the pass that pays with them has nothing to do. -/
theorem runAll_creditMemos (no_memos : ∀ debt ∈ book.debts, debt.creditMemo = false)
    (policy : LeftoverPolicy) :
    ({ book } : History).runAll policy (book.steps .creditMemos) = ({ book }, none) := by
  have none_pays : places (fun debt => debt.creditMemo) book.debts = [] := by
    rw [List.eq_nil_iff_forall_not_mem]
    intro index mem
    obtain ⟨debt, debt_eq, credit⟩ := mem_places.mp mem
    rw [no_memos debt (List.mem_of_getElem? debt_eq)] at credit
    cases credit
  have no_steps : book.steps .creditMemos = [] := by
    rw [steps, none_pays]
    rfl
  rw [no_steps, History.runAll]

theorem runPasses_creditMemos (no_memos : ∀ debt ∈ book.debts, debt.creditMemo = false)
    (policy : LeftoverPolicy) (rest : List Pass) :
    ({ book } : History).runPasses policy (.creditMemos :: rest) =
      ({ book } : History).runPasses policy rest := by
  rw [History.runPasses, runAll_creditMemos no_memos, History.proceed]

theorem runPasses_payments (no_memos : ∀ debt ∈ book.debts, debt.creditMemo = false)
    (policy : LeftoverPolicy) :
    (({ book } : History).runPasses policy [.creditMemos, .payments]).1 =
      book.afterPayments policy := by
  rw [runPasses_creditMemos no_memos, History.runPasses, afterPayments, History.afterPass]
  rcases ({ book } : History).runAll policy (book.steps .payments) with ⟨reached, _ | error⟩
  · rfl
  · rfl

section

variable (no_memos : ∀ debt ∈ book.debts, debt.creditMemo = false)
  (no_compensation : settings.compensation = false) (ended : (book.settle settings).2 = none)

include no_memos no_compensation ended

/-- Where there are no credit memos and nothing is compensated, a settlement pays, reverses and
takes the remainders. -/
theorem settle_phases :
    (({ book } : History).runAll settings.leftover (book.steps .payments)).2 = none ∧
      ((book.afterPayments settings.leftover).runAll settings.leftover
        ((book.afterPayments settings.leftover).book.steps .reversals)).2 = none ∧
        book.settle settings =
          (((book.afterPayments settings.leftover).afterPass settings.leftover
            .reversals).afterPass settings.leftover .remainders, none) := by
  have passes_eq : settings.passes = [.creditMemos, .payments, .reversals, .remainders] := by
    rw [Settings.passes, no_compensation]
    rfl
  have checked := check_of_ended ended
  rw [settle_of_checked checked, passes_eq, runPasses_creditMemos no_memos] at ended ⊢
  obtain ⟨payments_ended, payments_eq⟩ := History.ended_cons ended
  rw [payments_eq] at ended ⊢
  obtain ⟨reversals_ended, reversals_eq⟩ := History.ended_cons ended
  rw [reversals_eq] at ended ⊢
  obtain ⟨-, remainders_eq⟩ := History.ended_cons ended
  rw [afterPayments, remainders_eq, History.runPasses]
  exact ⟨payments_ended, reversals_ended, rfl⟩

variable (sound : book.Sound settings.leftover)

include sound

/-- A settlement pays in every direction the smaller of what is owed and what is paid. -/
theorem settle_paysToward (currency : Currency) (direction : Direction) :
    (book.settle settings).1.paidBy (Entry.PaysToward currency direction) =
      direction.sign *
        min (book.outstanding (.ofDebts (fun _ => true) currency direction))
          (book.outstanding (.ofFunds currency direction)) := by
  obtain ⟨payments_ended, -, settled_eq⟩ := settle_phases no_memos no_compensation ended
  have paid_sound : (book.afterPayments settings.leftover).book.Sound settings.leftover :=
    History.sound_afterPass sound .payments
  have reversed_sound := History.sound_afterPass paid_sound .reversals
  rw [settled_eq, History.paysToward_afterPass reversed_sound,
    History.paysToward_afterPass paid_sound, afterPayments,
    History.payments_paysToward sound payments_ended]
  · exact zero_add _
  · intro step mem
    obtain ⟨inbound, -, outbound, -, rfl⟩ := Step.mem_reverseAll.mp mem
    exact nofun
  · intro step mem
    obtain ⟨index, -, rfl⟩ := List.mem_map.mp mem
    exact nofun

/-- It reverses the smaller of what the payments have left in both directions. -/
theorem settle_reverses (currency : Currency) :
    (book.settle settings).1.paid .inboundPaymentToOutboundPayment currency =
      -min
        ((book.afterPayments settings.leftover).book.outstanding (.ofFunds currency .inbound))
        ((book.afterPayments settings.leftover).book.outstanding
          (.ofFunds currency .outbound)) := by
  obtain ⟨payments_ended, reversals_ended, settled_eq⟩ :=
    settle_phases no_memos no_compensation ended
  have paid_sound : (book.afterPayments settings.leftover).book.Sound settings.leftover :=
    History.sound_afterPass sound .payments
  have reversed_sound := History.sound_afterPass paid_sound .reversals
  have unreversed : (book.afterPayments settings.leftover).paid .inboundPaymentToOutboundPayment
      currency = 0 :=
    (History.exchanges_payments sound payments_ended).others _ currency (by decide) (by decide)
  rw [settled_eq, History.afterPass, History.paid_remainders reversed_sound (by decide),
    History.reversals_paid paid_sound reversals_ended, unreversed, zero_sub]

end

end Book
end Settlement
