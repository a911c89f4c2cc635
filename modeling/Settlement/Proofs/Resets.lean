import Settlement.Proofs.Exact.Fresh
import Settlement.Proofs.Outcomes

/-!
# What balances leave alone

Recording an allocation and moving what is left to pay change the balances of a document and nothing
else: with its balances put back to what they were before anything was allocated, the document is
the one that it was.
-/

namespace Settlement

/-! ## Payables -/

namespace Payable

variable {payable : Payable}

/-- The payable with nothing allocated to it. -/
def reset (payable : Payable) : Payable :=
  { payable with remaining := payable.initial, allocated := Amounts.zero payable.currency }

theorem Untouched.reset_eq (untouched : payable.Untouched) : payable.reset = payable := by
  obtain ⟨remaining_eq, allocated_eq, -, -⟩ := untouched
  cases payable
  simp only at remaining_eq allocated_eq
  simp only [reset, remaining_eq, allocated_eq, currency]

theorem initial_of_reset {other : Payable} (same : payable.reset = other.reset) :
    payable.initial = other.initial := by
  have initial_eq : payable.reset.initial = other.reset.initial := congrArg Payable.initial same
  exact initial_eq

theorem openAmount_of_reset {other : Payable} (same : payable.reset = other.reset) :
    payable.openAmount = other.openAmount := by
  have open_eq : payable.reset.openAmount = other.reset.openAmount :=
    congrArg Payable.openAmount same
  exact open_eq

theorem reset_assign {α : Type} {computed : Except Fault α} {put : α → Payable}
    (keeps : ∀ value, (put value).reset = payable.reset) :
    (Attempt.assign payable computed put).after.reset = payable.reset := by
  cases computed with
  | error fault => rfl
  | ok value => exact keeps value

theorem reset_allocate (payable : Payable) (amounts : Amounts) :
    (payable.allocate amounts).after.reset = payable.reset := by
  apply Attempt.holds_andThen fun changed : Payable => changed.reset = payable.reset
  · exact reset_assign fun _ => rfl
  · intro counted same
    rw [← same]
    exact reset_assign fun _ => rfl

theorem reset_moved {policy : LeftoverPolicy} {move : Attempt Payable}
    (moves : Progress.moved policy payable = some move) : move.after.reset = payable.reset := by
  cases policy with
  | leaveOpen => cases moves
  | discount =>
      cases moves
      exact reset_assign fun _ => rfl
  | writeOff =>
      cases moves
      exact reset_assign fun _ => rfl

end Payable

/-! ## Payments -/

namespace Payment

variable {payment : Payment}

/-- The payment with nothing allocated to it. -/
def reset (payment : Payment) : Payment :=
  { payment with remaining := payment.initial, allocated := Money.zero payment.currency }

theorem initial_of_reset {other : Payment} (same : payment.reset = other.reset) :
    payment.initial = other.initial := by
  have initial_eq : payment.reset.initial = other.reset.initial := congrArg Payment.initial same
  exact initial_eq

theorem openAmount_of_reset {other : Payment} (same : payment.reset = other.reset) :
    payment.openAmount = other.openAmount := by
  have open_eq : payment.reset.openAmount = other.reset.openAmount :=
    congrArg Payment.openAmount same
  exact open_eq

theorem reset_assign {α : Type} {computed : Except Fault α} {put : α → Payment}
    (keeps : ∀ value, (put value).reset = payment.reset) :
    (Attempt.assign payment computed put).after.reset = payment.reset := by
  cases computed with
  | error fault => rfl
  | ok value => exact keeps value

theorem reset_allocate (payment : Payment) (amount : Money) :
    (payment.allocate amount).after.reset = payment.reset := by
  apply Attempt.holds_andThen fun changed : Payment => changed.reset = payment.reset
  · exact reset_assign fun _ => rfl
  · intro counted same
    rw [← same]
    exact reset_assign fun _ => rfl

end Payment

/-! ## All documents -/

namespace Documents

/-- A feature of the entries of a list is kept where changing one of them keeps it. -/
theorem map_changeEntry {α β : Type} (feature : α → β) {entries : List α} {index : Nat}
    {change : α → Attempt α}
    (keeps : ∀ entry, entries[index]? = some entry →
      feature (change entry).after = feature entry) :
    (changeEntry entries index change).after.map feature = entries.map feature := by
  unfold changeEntry
  split
  · rename_i entry entry_eq
    obtain ⟨bound, rfl⟩ := List.getElem?_eq_some_iff.mp entry_eq
    have bound' : index < (entries.map feature).length := by rwa [List.length_map]
    have place_eq : (entries.map feature)[index] = feature entries[index] :=
      List.getElem_map feature
    rw [Attempt.map, List.map_set, keeps _ entry_eq, ← place_eq]
    exact List.set_getElem_self bound'
  · rfl

/-- The payables with nothing allocated to them. -/
def resets (documents : Documents) : List Payable := documents.payables.map Payable.reset

/-- The payments with nothing allocated to them. -/
def paymentResets (documents : Documents) : List Payment := documents.payments.map Payment.reset

variable (documents : Documents)

theorem resets_changePayable {index : Nat} {change : Payable → Attempt Payable}
    (keeps : ∀ payable, documents.payables[index]? = some payable →
      (change payable).after.reset = payable.reset) :
    (documents.changePayable index change).after.resets = documents.resets :=
  map_changeEntry Payable.reset keeps

theorem resets_allocate (index : Nat) (amounts : Amounts) :
    (documents.allocate index amounts).after.resets = documents.resets :=
  documents.resets_changePayable fun payable _ => payable.reset_allocate amounts

theorem resets_pay (means : Means) (amount : Money) :
    (documents.pay means amount).after.resets = documents.resets := by
  cases means with
  | payment index => rfl
  | creditMemo index => exact documents.resets_allocate index _
  | purchaseInvoice index => exact documents.resets_allocate index _

theorem paymentResets_pay (means : Means) (amount : Money) :
    (documents.pay means amount).after.paymentResets = documents.paymentResets := by
  cases means with
  | payment index =>
      exact map_changeEntry Payment.reset fun payment _ => payment.reset_allocate amount
  | creditMemo index => rfl
  | purchaseInvoice index => rfl

theorem resets_allocate_pay (index : Nat) (amounts : Amounts) (means : Means) (amount : Money) :
    ((documents.allocate index amounts).andThen fun documents =>
      documents.pay means amount).after.resets = documents.resets := by
  apply Attempt.holds_andThen fun after : Documents => after.resets = documents.resets
  · exact documents.resets_allocate index amounts
  · exact fun allocated same => (allocated.resets_pay means amount).trans same

theorem getElem?_resets {index : Nat} {payable : Payable}
    (payable_eq : documents.payables[index]? = some payable) :
    documents.resets[index]? = some payable.reset := by
  rw [resets, List.getElem?_map, payable_eq, Option.map_some]

theorem getElem?_paymentResets {index : Nat} {payment : Payment}
    (payment_eq : documents.payments[index]? = some payment) :
    documents.paymentResets[index]? = some payment.reset := by
  rw [paymentResets, List.getElem?_map, payment_eq, Option.map_some]

end Documents
end Settlement
