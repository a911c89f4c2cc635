import Settlement.Proofs.Values.Decimal
import Settlement.Verdict

/-!
# Documents that stay open

The verdict names the open payables in order or, when there are none, the open payments.
-/

namespace Settlement

theorem Payable.isFullyAllocated_iff_value (payable : Payable) :
    payable.isFullyAllocated = true ↔ payable.remaining.pay.amount.value = 0 :=
  Decimal.isZero_iff_value _

theorem Payment.isFullyAllocated_iff_value (payment : Payment) :
    payment.isFullyAllocated = true ↔ payment.remaining.amount.value = 0 :=
  Decimal.isZero_iff_value _

namespace Documents

/-- The references of the payables with something left to pay, in order. -/
def openPayables (documents : Documents) : List Reference :=
  (documents.payables.filter fun payable => payable.remaining.pay.amount.value ≠ 0).map
    Payable.reference

/-- The references of the payments with something left, in order. -/
def openPayments (documents : Documents) : List Reference :=
  (documents.payments.filter fun payment => payment.remaining.amount.value ≠ 0).map
    Payment.reference

theorem openPayables_eq_nil_iff (documents : Documents) :
    documents.openPayables = [] ↔
      ∀ payable ∈ documents.payables, payable.remaining.pay.amount.value = 0 := by
  simp [openPayables]

theorem openPayments_eq_nil_iff (documents : Documents) :
    documents.openPayments = [] ↔
      ∀ payment ∈ documents.payments, payment.remaining.amount.value = 0 := by
  simp [openPayments]

/-- The payables that the verdict asks about are those with a value left to pay. -/
theorem filter_payables (documents : Documents) :
    (documents.payables.filter fun payable => !payable.isFullyAllocated) =
      documents.payables.filter fun payable => payable.remaining.pay.amount.value ≠ 0 :=
  List.filter_congr fun payable _ => by
    rw [Bool.eq_iff_iff, Bool.not_eq_true', ← Bool.not_eq_true,
      payable.isFullyAllocated_iff_value, decide_eq_true_iff]

/-- The payments that the verdict asks about are those with a value left. -/
theorem filter_payments (documents : Documents) :
    (documents.payments.filter fun payment => !payment.isFullyAllocated) =
      documents.payments.filter fun payment => payment.remaining.amount.value ≠ 0 :=
  List.filter_congr fun payment _ => by
    rw [Bool.eq_iff_iff, Bool.not_eq_true', ← Bool.not_eq_true,
      payment.isFullyAllocated_iff_value, decide_eq_true_iff]

end Documents

/-- The verdict on open payables and open payments. -/
inductive Verdict.Names (payables payments : List Reference) : Verdict → Prop where
  /-- Nothing is open. -/
  | nothing (no_payables : payables = []) (no_payments : payments = []) :
      Names payables payments .passed
  /-- The open payables. -/
  | payables (some_payables : payables ≠ []) :
      Names payables payments (.failed (.payables payables))
  /-- The open payments, where no payable is open. -/
  | payments (no_payables : payables = []) (some_payments : payments ≠ []) :
      Names payables payments (.failed (.payments payments))

namespace Verdict

theorem ofDocuments_names (documents : Documents) :
    (ofDocuments documents).Names documents.openPayables documents.openPayments := by
  unfold ofDocuments Documents.openPayables Documents.openPayments
  rw [documents.filter_payables, documents.filter_payments]
  split
  · rename_i payables_eq
    rw [payables_eq]
    exact .payables (List.cons_ne_nil _ _)
  rename_i payables_eq
  rw [payables_eq]
  split
  · rename_i payments_eq
    rw [payments_eq]
    exact .payments rfl (List.cons_ne_nil _ _)
  · rename_i payments_eq
    rw [payments_eq]
    exact .nothing rfl rfl

theorem Names.passed_iff {payables payments : List Reference} {verdict : Verdict}
    (names : verdict.Names payables payments) :
    verdict = .passed ↔ payables = [] ∧ payments = [] := by
  cases names with
  | nothing no_payables no_payments => exact ⟨fun _ => ⟨no_payables, no_payments⟩, fun _ => rfl⟩
  | payables some_payables => simp [some_payables]
  | payments _ some_payments => simp [some_payments]

/-- There is one verdict on open documents. -/
theorem Names.unique {payables payments : List Reference} {verdict other : Verdict}
    (names : verdict.Names payables payments) (others : other.Names payables payments) :
    verdict = other := by
  cases names with
  | nothing no_payables no_payments =>
      cases others with
      | nothing => rfl
      | payables some_payables => exact absurd no_payables some_payables
      | payments _ some_payments => exact absurd no_payments some_payments
  | payables some_payables =>
      cases others with
      | nothing no_payables => exact absurd no_payables some_payables
      | payables => rfl
      | payments no_payables => exact absurd no_payables some_payables
  | payments no_payables some_payments =>
      cases others with
      | nothing _ no_payments => exact absurd no_payments some_payments
      | payables some_payables => exact absurd no_payables some_payables
      | payments => rfl

end Verdict
end Settlement
