import Settlement.Amounts
import Settlement.Proofs.Values.Decimal
import Settlement.Proofs.Outcomes

/-!
# Amounts of one value

What amounts of money are compared, added and moved to only depends on their values and their
currencies: a zero with a sign, and digits that say nothing, change no result and no fault.
-/

namespace Settlement

namespace Money

variable {left right left' right' money money' : Money}

theorem SameValue.refl (money : Money) : money.SameValue money := ⟨.refl _, rfl⟩

theorem SameValue.zero {currency currency' : Currency} (same : currency = currency') :
    (zero currency).SameValue (zero currency') := by
  rw [same]
  exact .refl _

theorem SameValue.isZero_eq (same : money.SameValue money') : money.isZero = money'.isZero :=
  Decimal.SameValue.isZero_eq same.1

/-- Money is below zero by its value: a sign on zero does not count. -/
theorem isNegative_eq_true_iff (money : Money) :
    money.isNegative = true ↔
      money.amount.negative = true ∧ money.amount.coefficient ≠ 0 := by
  simp [isNegative, isZero, Decimal.isZero]

theorem SameValue.isNegative_eq (same : money.SameValue money') :
    money.isNegative = money'.isNegative := by
  rw [Bool.eq_iff_iff, isNegative_eq_true_iff, isNegative_eq_true_iff]
  exact same.1.negative_iff

/-- Money that is not zero is either above or below. -/
theorem isPositive_eq (money : Money) :
    money.isPositive = (!money.isNegative && !money.isZero) := by
  unfold isPositive isNegative
  cases money.amount.negative <;> cases money.isZero <;> rfl

theorem SameValue.isPositive_eq (same : money.SameValue money') :
    money.isPositive = money'.isPositive := by
  rw [Money.isPositive_eq, Money.isPositive_eq, same.isNegative_eq, same.isZero_eq]

theorem SameValue.of {amount amount' : Decimal} {currency currency' : Currency}
    (same : amount.SameValue amount') (currency_eq : currency = currency') :
    (of amount currency).SameValue (of amount' currency') :=
  ⟨same.round places, currency_eq⟩

theorem SameValue.neg (same : money.SameValue money') : money.neg.SameValue money'.neg :=
  .of same.1.neg same.2

/-- Two operations on amounts agree wherever their arguments are the same money. -/
def Respects (operation : Money → Money → Except Fault Money) : Prop :=
  ∀ ⦃left left' right right' : Money⦄, left.SameValue left' → right.SameValue right' →
    SameOutcome SameValue (operation left right) (operation left' right')

theorem respects_add : Respects add := by
  intro left left' right right' left_same right_same
  unfold add
  rw [left_same.2, right_same.2]
  split
  · exact .failed _
  · have same := left_same.1.sum? right_same.1
    generalize left.amount.sum? right.amount = sum at same ⊢
    generalize left'.amount.sum? right'.amount = sum' at same ⊢
    cases same with
    | none => exact .failed _
    | some same => exact .done (.of same rfl)

theorem respects_sub : Respects sub := by
  intro left left' right right' left_same right_same
  unfold sub
  rw [left_same.2, right_same.2]
  split
  · exact .failed _
  · have same := left_same.1.difference? right_same.1
    generalize left.amount.difference? right.amount = difference at same ⊢
    generalize left'.amount.difference? right'.amount = difference' at same ⊢
    cases same with
    | none => exact .failed _
    | some same => exact .done (.of same rfl)

theorem respects_min : Respects min := by
  intro left left' right right' left_same right_same
  unfold min
  rw [left_same.2, right_same.2]
  simp only [right_same.1.less_iff left_same.1]
  split
  · exact .failed _
  · split
    · exact .done right_same
    · exact .done left_same

theorem respects_max : Respects max := by
  intro left left' right right' left_same right_same
  unfold max
  rw [left_same.2, right_same.2]
  simp only [left_same.1.less_iff right_same.1]
  split
  · exact .failed _
  · split
    · exact .done right_same
    · exact .done left_same

end Money

namespace Amounts

variable {left right left' right' amounts amounts' : Amounts}

theorem SameValue.refl (amounts : Amounts) : amounts.SameValue amounts :=
  ⟨.refl _, .refl _, .refl _⟩

theorem SameValue.currency_eq (same : amounts.SameValue amounts') :
    amounts.currency = amounts'.currency := same.1.2

theorem SameValue.isZero_eq (same : amounts.SameValue amounts') :
    amounts.isZero = amounts'.isZero := by
  obtain ⟨pay, discount, writeOff⟩ := same
  rw [isZero, isZero, pay.isZero_eq, discount.isZero_eq, writeOff.isZero_eq]

theorem SameValue.ofPay {pay pay' : Money} (same : pay.SameValue pay') :
    (ofPay pay).SameValue (ofPay pay') :=
  ⟨same, .zero same.2, .zero same.2⟩

theorem SameValue.total (same : amounts.SameValue amounts') :
    SameOutcome Money.SameValue amounts.total amounts'.total := by
  obtain ⟨pay, discount, writeOff⟩ := same
  apply (Money.respects_add pay discount).bind
  intro sum sum' sum_same
  exact Money.respects_add sum_same writeOff

theorem SameValue.combine {operation : Money → Money → Except Fault Money}
    (respects : Money.Respects operation) (left_same : left.SameValue left')
    (right_same : right.SameValue right') :
    SameOutcome SameValue (combine operation left right) (combine operation left' right') := by
  apply (respects left_same.1 right_same.1).bind
  intro pay pay' pay_same
  apply (respects left_same.2.1 right_same.2.1).bind
  intro discount discount' discount_same
  apply (respects left_same.2.2 right_same.2.2).bind
  intro writeOff writeOff' writeOff_same
  exact .done ⟨pay_same, discount_same, writeOff_same⟩

theorem SameValue.add (left_same : left.SameValue left') (right_same : right.SameValue right') :
    SameOutcome SameValue (left.add right) (left'.add right') :=
  left_same.combine Money.respects_add right_same

theorem SameValue.sub (left_same : left.SameValue left') (right_same : right.SameValue right') :
    SameOutcome SameValue (left.sub right) (left'.sub right') :=
  left_same.combine Money.respects_sub right_same

theorem SameValue.withPay (same : amounts.SameValue amounts') {pay pay' : Money}
    (pay_same : pay.SameValue pay') :
    SameOutcome SameValue (amounts.withPay pay) (amounts'.withPay pay') := by
  unfold Amounts.withPay
  rw [pay_same.2, same.currency_eq]
  split
  · exact .done ⟨pay_same, same.2⟩
  · exact .failed _

theorem SameValue.withZeroPay (same : amounts.SameValue amounts') :
    amounts.withZeroPay.SameValue amounts'.withZeroPay :=
  ⟨.zero same.currency_eq, same.2⟩

theorem SameValue.payToDiscount (same : amounts.SameValue amounts') :
    SameOutcome SameValue amounts.payToDiscount amounts'.payToDiscount := by
  apply (Money.respects_add same.2.1 same.1).bind
  intro discount discount' discount_same
  exact .done ⟨.zero same.currency_eq, discount_same, same.2.2⟩

theorem SameValue.payToWriteOff (same : amounts.SameValue amounts') :
    SameOutcome SameValue amounts.payToWriteOff amounts'.payToWriteOff := by
  apply (Money.respects_add same.2.2 same.1).bind
  intro writeOff writeOff' writeOff_same
  exact .done ⟨.zero same.currency_eq, same.2.1, writeOff_same⟩

end Amounts
end Settlement
