import Settlement.Proofs.Exact.Documents
import Settlement.Proofs.Outcomes

/-!
# What a settlement never changes

A settlement only moves balances: every document keeps its reference and its currency, and what is
left of it stays in the currency in which it was.
-/

namespace Settlement

/-! ## Single operations -/

namespace Money

theorem currency_add {left right sum : Money} (done : left.add right = .ok sum) :
    sum.currency = left.currency := by
  obtain ⟨-, exact_sum, -, rfl⟩ := add_eq_ok.mp done
  rfl

theorem currency_sub {left right difference : Money} (done : left.sub right = .ok difference) :
    difference.currency = left.currency := by
  obtain ⟨-, exact_difference, -, rfl⟩ := sub_eq_ok.mp done
  rfl

theorem currency_max {left right larger : Money} (done : left.max right = .ok larger) :
    larger.currency = left.currency := by
  obtain ⟨same, rfl | rfl⟩ := max_eq_ok done
  · rfl
  · exact same.symm

end Money

namespace Amounts

theorem currency_sub {left right difference : Amounts} (done : left.sub right = .ok difference) :
    difference.currency = left.currency := by
  obtain ⟨pay, pay_eq, done⟩ := bind_eq_ok.mp done
  obtain ⟨discount, -, done⟩ := bind_eq_ok.mp done
  obtain ⟨writeOff, -, done⟩ := bind_eq_ok.mp done
  cases done
  exact Money.currency_sub pay_eq

theorem currency_withPay {amounts changed : Amounts} {pay : Money}
    (done : amounts.withPay pay = .ok changed) : changed.currency = amounts.currency := by
  unfold withPay at done
  split at done
  · rename_i same
    cases done
    exact same
  · cases done

end Amounts

/-! ## Documents -/

/-- The same payable with other balances. -/
structure Payable.Kept (before after : Payable) : Prop where
  reference_eq : after.reference = before.reference
  currency_eq : after.currency = before.currency
  remaining_eq : after.remaining.currency = before.remaining.currency

/-- The same payment with other balances. -/
structure Payment.Kept (before after : Payment) : Prop where
  reference_eq : after.reference = before.reference
  currency_eq : after.currency = before.currency
  remaining_eq : after.remaining.currency = before.remaining.currency

namespace Payable

theorem Kept.refl (payable : Payable) : payable.Kept payable := ⟨rfl, rfl, rfl⟩

theorem Kept.trans {first second third : Payable} (early : first.Kept second)
    (late : second.Kept third) : first.Kept third :=
  ⟨late.reference_eq.trans early.reference_eq, late.currency_eq.trans early.currency_eq,
    late.remaining_eq.trans early.remaining_eq⟩

theorem kept_allocate (payable : Payable) (amounts : Amounts) :
    payable.Kept (payable.allocate amounts).after := by
  apply Attempt.holds_andThen payable.Kept
  · exact Attempt.holds_assign (.refl payable) fun allocated _ => ⟨rfl, rfl, rfl⟩
  · intro counted kept
    exact Attempt.holds_assign kept fun remaining done =>
      kept.trans ⟨rfl, rfl, Amounts.currency_sub done⟩

end Payable

namespace Payment

theorem Kept.refl (payment : Payment) : payment.Kept payment := ⟨rfl, rfl, rfl⟩

theorem Kept.trans {first second third : Payment} (early : first.Kept second)
    (late : second.Kept third) : first.Kept third :=
  ⟨late.reference_eq.trans early.reference_eq, late.currency_eq.trans early.currency_eq,
    late.remaining_eq.trans early.remaining_eq⟩

theorem kept_allocate (payment : Payment) (amount : Money) :
    payment.Kept (payment.allocate amount).after := by
  apply Attempt.holds_andThen payment.Kept
  · exact Attempt.holds_assign (.refl payment) fun allocated _ => ⟨rfl, rfl, rfl⟩
  · intro counted kept
    exact Attempt.holds_assign kept fun remaining done =>
      kept.trans ⟨rfl, rfl, Money.currency_sub done⟩

end Payment

namespace Documents

/-- The same documents with other balances. -/
structure Kept (before after : Documents) : Prop where
  payables : List.Forall₂ Payable.Kept before.payables after.payables
  payments : List.Forall₂ Payment.Kept before.payments after.payments

theorem Kept.refl (documents : Documents) : documents.Kept documents :=
  ⟨List.forall₂_same.mpr fun payable _ => .refl payable,
    List.forall₂_same.mpr fun payment _ => .refl payment⟩

theorem Kept.trans {first second third : Documents} (early : first.Kept second)
    (late : second.Kept third) : first.Kept third :=
  ⟨forall₂_trans (fun _ _ _ => Payable.Kept.trans) early.payables late.payables,
    forall₂_trans (fun _ _ _ => Payment.Kept.trans) early.payments late.payments⟩

/-- A change that keeps an entry keeps the list. -/
theorem kept_changeEntry {α : Type} {kept : α → α → Prop} (refl : ∀ entry, kept entry entry)
    {entries : List α} (index : Nat) {change : α → Attempt α}
    (keeps : ∀ entry, kept entry (change entry).after) :
    List.Forall₂ kept entries (changeEntry entries index change).after := by
  unfold changeEntry
  split
  · rename_i entry entry_eq
    rw [Attempt.map, List.set_eq_modify]
    refine forall₂_modify (fun entry _ => refl entry) fun found found_eq => ?_
    rw [Option.some.inj (found_eq.symm.trans entry_eq)]
    exact keeps entry
  · exact List.forall₂_same.mpr fun entry _ => refl entry

theorem kept_changePayable (documents : Documents) (index : Nat)
    {change : Payable → Attempt Payable}
    (keeps : ∀ payable : Payable, payable.Kept (change payable).after) :
    documents.Kept (documents.changePayable index change).after :=
  ⟨kept_changeEntry Payable.Kept.refl index keeps, (Kept.refl documents).payments⟩

theorem kept_changePayment (documents : Documents) (index : Nat)
    {change : Payment → Attempt Payment}
    (keeps : ∀ payment : Payment, payment.Kept (change payment).after) :
    documents.Kept (documents.changePayment index change).after :=
  ⟨(Kept.refl documents).payables, kept_changeEntry Payment.Kept.refl index keeps⟩

/-- One of the documents has a reference and is in a currency. -/
def Holds (documents : Documents) (reference : Reference) (currency : Currency) : Prop :=
  (∃ payable ∈ documents.payables, payable.reference = reference ∧ payable.currency = currency) ∨
    ∃ payment ∈ documents.payments, payment.reference = reference ∧ payment.currency = currency

/-- Other balances are no other documents. -/
theorem Kept.holds {before after : Documents} (kept : before.Kept after) {reference : Reference}
    {currency : Currency} (holds : after.Holds reference currency) :
    before.Holds reference currency := by
  rcases holds with ⟨payable, mem, rfl, rfl⟩ | ⟨payment, mem, rfl, rfl⟩
  · obtain ⟨given, given_mem, same⟩ := forall₂_mem_right kept.payables mem
    exact .inl ⟨given, given_mem, same.reference_eq.symm, same.currency_eq.symm⟩
  · obtain ⟨given, given_mem, same⟩ := forall₂_mem_right kept.payments mem
    exact .inr ⟨given, given_mem, same.reference_eq.symm, same.currency_eq.symm⟩

end Documents
end Settlement
