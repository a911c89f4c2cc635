import Settlement.Proofs.Balanced.Payables

/-!
# Currencies that never clash

What is computed from amounts in one currency is in that currency, unless a result outgrows the
decimals: currencies never clash.  So a payable in one currency stays in it whatever is recorded on
it in that currency.  Mixed amounts have no total, and nothing in one currency can be taken off
them.
-/

namespace Settlement

/-! ## Computations in one currency -/

/-- Currencies do not clash: there is a value that is in order, or a result outgrows the
decimals. -/
inductive Unclashed {α : Type} (holds : α → Prop) : Except Fault α → Prop where
  | done {value : α} (fine : holds value) : Unclashed holds (.ok value)
  | sumOverflow : Unclashed holds (.error .sumOverflow)
  | differenceOverflow : Unclashed holds (.error .differenceOverflow)

theorem Unclashed.bind {α β : Type} {holds : α → Prop} {holds' : β → Prop}
    {computed : Except Fault α} {next : α → Except Fault β} (first : Unclashed holds computed)
    (rest : ∀ value, holds value → Unclashed holds' (next value)) :
    Unclashed holds' (computed >>= next) := by
  cases first with
  | done fine => exact rest _ fine
  | sumOverflow => exact .sumOverflow
  | differenceOverflow => exact .differenceOverflow

/-- The outcome of a change in which currencies do not clash. -/
inductive Attempt.Unclashed {α : Type} (holds : α → Prop) : Attempt α → Prop where
  | complete {after : α} (fine : holds after) : Unclashed holds (.complete after)
  | sumOverflow {after : α} (fine : holds after) : Unclashed holds ⟨after, some .sumOverflow⟩
  | differenceOverflow {after : α} (fine : holds after) :
      Unclashed holds ⟨after, some .differenceOverflow⟩

namespace Attempt

variable {α β : Type} {holds : α → Prop} {holds' : β → Prop} {attempt : Attempt α}

theorem Unclashed.after (unclashed : attempt.Unclashed holds) : holds attempt.after := by
  cases unclashed with
  | complete fine => exact fine
  | sumOverflow fine => exact fine
  | differenceOverflow fine => exact fine

theorem unclashed_assign {object : α} {computed : Except Fault β} {put : β → α}
    (before : holds object) (unclashed : Settlement.Unclashed holds' computed)
    (puts : ∀ value, holds' value → holds (put value)) :
    (assign object computed put).Unclashed holds := by
  cases unclashed with
  | done fine => exact .complete (puts _ fine)
  | sumOverflow => exact .sumOverflow before
  | differenceOverflow => exact .differenceOverflow before

theorem Unclashed.andThen {next : α → Attempt α} (first : attempt.Unclashed holds)
    (rest : ∀ object, holds object → (next object).Unclashed holds) :
    (attempt.andThen next).Unclashed holds := by
  cases first with
  | complete fine => exact rest _ fine
  | sumOverflow fine => exact .sumOverflow fine
  | differenceOverflow fine => exact .differenceOverflow fine

end Attempt

namespace Money

variable {currency : Currency} {left right : Money}

theorem unclashed_add (left_currency : left.currency = currency)
    (right_currency : right.currency = currency) :
    Unclashed (·.currency = currency) (left.add right) := by
  have same : left.currency = right.currency := left_currency.trans right_currency.symm
  rw [add, if_neg (not_not.mpr same)]
  split
  · exact .done left_currency
  · exact .sumOverflow

theorem unclashed_sub (left_currency : left.currency = currency)
    (right_currency : right.currency = currency) :
    Unclashed (·.currency = currency) (left.sub right) := by
  have same : left.currency = right.currency := left_currency.trans right_currency.symm
  rw [sub, if_neg (not_not.mpr same)]
  split
  · exact .done left_currency
  · exact .differenceOverflow

/-- Amounts that are added are in one currency. -/
theorem currency_eq_of_add {sum : Money} (done : left.add right = .ok sum) :
    left.currency = right.currency :=
  (add_eq_ok.mp done).1

theorem currency_eq_of_sub {difference : Money} (done : left.sub right = .ok difference) :
    left.currency = right.currency :=
  (sub_eq_ok.mp done).1

end Money

namespace Amounts

variable {currency : Currency} {amounts left right : Amounts}

theorem usesOnly_zero (currency : Currency) : (zero currency).UsesOnly currency := ⟨rfl, rfl, rfl⟩

theorem UsesOnly.total (single : amounts.UsesOnly currency) :
    Unclashed (·.currency = currency) amounts.total :=
  (Money.unclashed_add single.pay single.discount).bind fun _ paid =>
    Money.unclashed_add paid single.writeOff

theorem UsesOnly.combine {operation : Money → Money → Except Fault Money}
    (unclashed : ∀ {left right : Money}, left.currency = currency → right.currency = currency →
      Unclashed (·.currency = currency) (operation left right))
    (left_single : left.UsesOnly currency) (right_single : right.UsesOnly currency) :
    Unclashed (UsesOnly currency) (Amounts.combine operation left right) := by
  apply (unclashed left_single.pay right_single.pay).bind
  intro pay pay_currency
  apply (unclashed left_single.discount right_single.discount).bind
  intro discount discount_currency
  apply (unclashed left_single.writeOff right_single.writeOff).bind
  intro writeOff writeOff_currency
  exact .done ⟨pay_currency, discount_currency, writeOff_currency⟩

theorem UsesOnly.add (left_single : left.UsesOnly currency)
    (right_single : right.UsesOnly currency) : Unclashed (UsesOnly currency) (left.add right) :=
  left_single.combine Money.unclashed_add right_single

theorem UsesOnly.sub (left_single : left.UsesOnly currency)
    (right_single : right.UsesOnly currency) : Unclashed (UsesOnly currency) (left.sub right) :=
  left_single.combine Money.unclashed_sub right_single

theorem UsesOnly.payToDiscount (single : amounts.UsesOnly currency) :
    Unclashed (UsesOnly currency) amounts.payToDiscount :=
  (Money.unclashed_add single.discount single.pay).bind fun _ discount_currency =>
    .done ⟨single.pay, discount_currency, single.writeOff⟩

theorem UsesOnly.payToWriteOff (single : amounts.UsesOnly currency) :
    Unclashed (UsesOnly currency) amounts.payToWriteOff :=
  (Money.unclashed_add single.writeOff single.pay).bind fun _ writeOff_currency =>
    .done ⟨single.pay, single.discount, writeOff_currency⟩

/-- Only amounts in one currency have a total. -/
theorem usesOnly_of_total {total : Money} (done : amounts.total = .ok total) :
    amounts.UsesOnly amounts.currency := by
  obtain ⟨paid, paid_eq, done⟩ := bind_eq_ok.mp done
  have discount := Money.currency_eq_of_add paid_eq
  have writeOff := Money.currency_eq_of_add done
  exact ⟨rfl, discount.symm, writeOff.symm.trans (Money.currency_add paid_eq)⟩

/-- Amounts in a currency can only be taken off others in that currency. -/
theorem usesOnly_of_sub {difference : Amounts} (right_single : right.UsesOnly currency)
    (done : left.sub right = .ok difference) : left.UsesOnly currency := by
  obtain ⟨pay, pay_eq, done⟩ := bind_eq_ok.mp done
  obtain ⟨discount, discount_eq, done⟩ := bind_eq_ok.mp done
  obtain ⟨writeOff, writeOff_eq, -⟩ := bind_eq_ok.mp done
  exact ⟨(Money.currency_eq_of_sub pay_eq).trans right_single.pay,
    (Money.currency_eq_of_sub discount_eq).trans right_single.discount,
    (Money.currency_eq_of_sub writeOff_eq).trans right_single.writeOff⟩

end Amounts

/-! ## Payables in one currency -/

namespace Payable

variable {payable : Payable} {currency : Currency}

/-- The payable is all in a currency. -/
def IsIn (currency : Currency) (payable : Payable) : Prop :=
  payable.SingleCurrency ∧ payable.currency = currency

/-- In the currency of the payable, currencies never clash. -/
structure Harmonious (payable : Payable) : Prop where
  initial : Unclashed (·.currency = payable.currency) payable.initial.total
  remaining : Unclashed (·.currency = payable.currency) payable.remaining.total
  allocated : Unclashed (·.currency = payable.currency) payable.allocated.total
  projected : ∀ amounts : Amounts, amounts.UsesOnly payable.currency →
    Unclashed (·.currency = payable.currency) (payable.projected amounts)
  changed : ∀ change : Change, change.UsesOnly payable.currency →
    (change.apply payable).Unclashed (IsIn payable.currency)

theorem SingleCurrency.projected (single : payable.SingleCurrency) {amounts : Amounts}
    (amounts_single : amounts.UsesOnly payable.currency) :
    Unclashed (·.currency = payable.currency) (payable.projected amounts) := by
  apply single.allocated.total.bind
  intro allocated allocated_currency
  apply (Money.unclashed_sub single.openAmount allocated_currency).bind
  intro unallocated unallocated_currency
  apply amounts_single.total.bind
  intro total total_currency
  exact Money.unclashed_sub unallocated_currency total_currency

theorem SingleCurrency.changed (single : payable.SingleCurrency) {change : Change}
    (change_single : change.UsesOnly payable.currency) :
    (change.apply payable).Unclashed (IsIn payable.currency) := by
  cases change with
  | allocate amounts =>
      have amounts_single : amounts.UsesOnly payable.currency := change_single
      rw [Change.apply, Payable.allocate]
      apply Attempt.Unclashed.andThen
      · exact Attempt.unclashed_assign ⟨single, rfl⟩ (single.allocated.add amounts_single)
          fun allocated allocated_single => ⟨{ single with allocated := allocated_single }, rfl⟩
      · rintro counted ⟨counted_single, currency_eq⟩
        rw [← currency_eq] at amounts_single ⊢
        exact Attempt.unclashed_assign ⟨counted_single, rfl⟩
          (counted_single.remaining.sub amounts_single)
          fun remaining remaining_single =>
            ⟨{ counted_single with remaining := remaining_single }, rfl⟩
  | toDiscount =>
      exact Attempt.unclashed_assign ⟨single, rfl⟩ single.remaining.payToDiscount
        fun remaining remaining_single => ⟨{ single with remaining := remaining_single }, rfl⟩
  | toWriteOff =>
      exact Attempt.unclashed_assign ⟨single, rfl⟩ single.remaining.payToWriteOff
        fun remaining remaining_single => ⟨{ single with remaining := remaining_single }, rfl⟩

theorem SingleCurrency.harmonious (single : payable.SingleCurrency) : payable.Harmonious where
  initial := single.initial.total
  remaining := single.remaining.total
  allocated := single.allocated.total
  projected _ amounts_single := single.projected amounts_single
  changed _ change_single := single.changed change_single

/-- A payable in one currency stays in it under any changes in that currency. -/
theorem SingleCurrency.isIn_changed (single : payable.SingleCurrency) {changes : List Change}
    (changes_single : ∀ change ∈ changes, change.UsesOnly payable.currency) :
    (payable.changed changes).IsIn payable.currency := by
  induction changes using List.reverseRecOn with
  | nil => exact ⟨single, rfl⟩
  | append_singleton taken change ih =>
      obtain ⟨now_single, currency_eq⟩ := ih fun other mem => changes_single other (by simp [mem])
      have change_single := changes_single change (by simp)
      rw [← currency_eq] at change_single ⊢
      rw [changed_concat]
      exact (now_single.changed change_single).after

/-- Amounts in a currency are only recorded in full where all that is left is in that currency. -/
theorem usesOnly_of_allocate {amounts : Amounts} (amounts_single : amounts.UsesOnly currency)
    (recorded : (payable.allocate amounts).fault? = none) :
    payable.remaining.UsesOnly currency := by
  unfold allocate at recorded
  cases counted : payable.allocated.add amounts with
  | error fault =>
      rw [counted] at recorded
      cases recorded
  | ok allocated =>
      rw [counted, Attempt.assign_ok, Attempt.andThen_complete] at recorded
      cases taken : payable.remaining.sub amounts with
      | error fault =>
          simp only [taken] at recorded
          cases recorded
      | ok remaining => exact Amounts.usesOnly_of_sub amounts_single taken

end Payable

end Settlement
