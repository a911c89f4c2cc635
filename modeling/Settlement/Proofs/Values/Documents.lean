import Settlement.Matching.Pass
import Settlement.Proofs.Exact.Pointwise
import Settlement.Proofs.Values.Amounts

/-!
# Documents of one value

Documents that differ in how their amounts are written record allocations alike, are seen as
payments alike and stand at the same places.
-/

namespace Settlement

/-! ## Payables -/

namespace Payable

/-- The same document with the same money in every amount, part by part. -/
structure Agrees (left right : Payable) : Prop where
  kind_eq : left.kind = right.kind
  organization_eq : left.organization = right.organization
  partner_eq : left.partner = right.partner
  number_eq : left.number = right.number
  side_eq : left.side = right.side
  creditMemo_eq : left.creditMemo = right.creditMemo
  reference_eq : left.reference = right.reference
  openAmount : left.openAmount.SameValue right.openAmount
  initial : left.initial.SameValue right.initial
  remaining : left.remaining.SameValue right.remaining
  allocated : left.allocated.SameValue right.allocated

variable {payable payable' : Payable}

theorem sameValue_iff_agrees : payable.SameValue payable' ↔ payable.Agrees payable' := by
  constructor
  · rintro ⟨kind, organization, partner, number, side, creditMemo, reference, openAmount, initial,
      remaining, allocated⟩
    exact ⟨kind, organization, partner, number, side, creditMemo, reference, openAmount, initial,
      remaining, allocated⟩
  · intro same
    exact ⟨same.kind_eq, same.organization_eq, same.partner_eq, same.number_eq, same.side_eq,
      same.creditMemo_eq, same.reference_eq, same.openAmount, same.initial, same.remaining,
      same.allocated⟩

theorem Agrees.currency_eq (same : payable.Agrees payable') :
    payable.currency = payable'.currency :=
  same.initial.currency_eq

theorem Agrees.isFullyAllocated_eq (same : payable.Agrees payable') :
    payable.isFullyAllocated = payable'.isFullyAllocated :=
  same.remaining.1.isZero_eq

theorem Agrees.allocate (same : payable.Agrees payable') {amounts amounts' : Amounts}
    (amounts_same : amounts.SameValue amounts') :
    (payable.allocate amounts).Same Agrees (payable'.allocate amounts') := by
  apply Attempt.Same.andThen
  · apply Attempt.Same.assign same (same.allocated.add amounts_same)
    exact fun allocated allocated' allocated_same => { same with allocated := allocated_same }
  · intro counted counted' counted_same
    apply Attempt.Same.assign counted_same (counted_same.remaining.sub amounts_same)
    exact fun remaining remaining' remaining_same =>
      { counted_same with remaining := remaining_same }

theorem Agrees.projected (same : payable.Agrees payable') {amounts amounts' : Amounts}
    (amounts_same : amounts.SameValue amounts') :
    SameOutcome Money.SameValue (payable.projected amounts) (payable'.projected amounts') := by
  apply same.allocated.total.bind
  intro allocated allocated' allocated_same
  apply (Money.respects_sub same.openAmount allocated_same).bind
  intro unallocated unallocated' unallocated_same
  apply amounts_same.total.bind
  intro total total' total_same
  exact Money.respects_sub unallocated_same total_same

/-- What is left to pay is moved alike. -/
theorem Agrees.moved (same : payable.Agrees payable') (policy : LeftoverPolicy) :
    Option.Rel (Attempt.Same Agrees) (Progress.moved policy payable)
      (Progress.moved policy payable') := by
  cases policy with
  | leaveOpen => exact .none
  | discount =>
      refine .some (Attempt.Same.assign same same.remaining.payToDiscount ?_)
      exact fun remaining remaining' remaining_same => { same with remaining := remaining_same }
  | writeOff =>
      refine .some (Attempt.Same.assign same same.remaining.payToWriteOff ?_)
      exact fun remaining remaining' remaining_same => { same with remaining := remaining_same }

end Payable

/-! ## Payments -/

namespace Payment

/-- The same payment with the same money in every amount, part by part. -/
structure Agrees (left right : Payment) : Prop where
  organization_eq : left.organization = right.organization
  partner_eq : left.partner = right.partner
  number_eq : left.number = right.number
  direction_eq : left.direction = right.direction
  id_eq : left.id = right.id
  openAmount : left.openAmount.SameValue right.openAmount
  initial : left.initial.SameValue right.initial
  remaining : left.remaining.SameValue right.remaining
  allocated : left.allocated.SameValue right.allocated

variable {payment payment' : Payment}

theorem sameValue_iff_agrees : payment.SameValue payment' ↔ payment.Agrees payment' := by
  constructor
  · rintro ⟨organization, partner, number, direction, id, openAmount, initial, remaining,
      allocated⟩
    exact ⟨organization, partner, number, direction, id, openAmount, initial, remaining,
      allocated⟩
  · intro same
    exact ⟨same.organization_eq, same.partner_eq, same.number_eq, same.direction_eq, same.id_eq,
      same.openAmount, same.initial, same.remaining, same.allocated⟩

theorem Agrees.reference_eq (same : payment.Agrees payment') :
    payment.reference = payment'.reference :=
  congrArg Reference.payment same.id_eq

theorem Agrees.currency_eq (same : payment.Agrees payment') :
    payment.currency = payment'.currency :=
  same.initial.2

theorem Agrees.isFullyAllocated_eq (same : payment.Agrees payment') :
    payment.isFullyAllocated = payment'.isFullyAllocated :=
  same.remaining.isZero_eq

theorem Agrees.allocate (same : payment.Agrees payment') {amount amount' : Money}
    (amount_same : amount.SameValue amount') :
    (payment.allocate amount).Same Agrees (payment'.allocate amount') := by
  apply Attempt.Same.andThen
  · apply Attempt.Same.assign same (Money.respects_add same.allocated amount_same)
    exact fun allocated allocated' allocated_same => { same with allocated := allocated_same }
  · intro counted counted' counted_same
    apply Attempt.Same.assign counted_same (Money.respects_sub counted_same.remaining amount_same)
    exact fun remaining remaining' remaining_same =>
      { counted_same with remaining := remaining_same }

theorem Agrees.projected (same : payment.Agrees payment') {amount amount' : Money}
    (amount_same : amount.SameValue amount') :
    SameOutcome Money.SameValue (payment.projected amount) (payment'.projected amount') := by
  apply (Money.respects_sub same.openAmount same.allocated).bind
  intro unallocated unallocated' unallocated_same
  exact Money.respects_sub unallocated_same amount_same

end Payment

/-! ## Documents that act as payments -/

namespace PaymentView

/-- The same document in the same role. -/
inductive Agrees : PaymentView → PaymentView → Prop where
  | payment {document document' : Payment} (same : document.Agrees document') :
      Agrees (.payment document) (.payment document')
  | creditMemo {document document' : Payable} (same : document.Agrees document') :
      Agrees (.creditMemo document) (.creditMemo document')
  | purchaseInvoice {document document' : Payable} (same : document.Agrees document') :
      Agrees (.purchaseInvoice document) (.purchaseInvoice document')

variable {view view' : PaymentView} {payable payable' : Payable}

theorem Agrees.reference_eq (same : view.Agrees view') : view.reference = view'.reference := by
  cases same with
  | payment same => exact same.reference_eq
  | creditMemo same => exact same.reference_eq
  | purchaseInvoice same => exact same.reference_eq

theorem Agrees.initial (same : view.Agrees view') : view.initial.SameValue view'.initial := by
  cases same with
  | payment same => exact same.initial
  | creditMemo same => exact same.initial.1.neg
  | purchaseInvoice same => exact same.initial.1.neg

theorem Agrees.remaining (same : view.Agrees view') :
    view.remaining.SameValue view'.remaining := by
  cases same with
  | payment same => exact same.remaining
  | creditMemo same => exact same.remaining.1.neg
  | purchaseInvoice same => exact same.remaining.1.neg

theorem Agrees.isFullyAllocated_eq (same : view.Agrees view') :
    view.isFullyAllocated = view'.isFullyAllocated := by
  cases same with
  | payment same => exact same.isFullyAllocated_eq
  | creditMemo same => exact same.isFullyAllocated_eq
  | purchaseInvoice same => exact same.isFullyAllocated_eq

theorem Agrees.projected (same : view.Agrees view') {amount amount' : Money}
    (amount_same : amount.SameValue amount') :
    SameOutcome Money.SameValue (view.projected amount) (view'.projected amount') := by
  cases same with
  | payment same => exact same.projected amount_same
  | creditMemo same => exact same.projected (.ofPay amount_same.neg)
  | purchaseInvoice same => exact same.projected (.ofPay amount_same.neg)

theorem Agrees.canPay_eq (same : view.Agrees view') (payable_same : payable.Agrees payable') :
    view.canPay payable = view'.canPay payable' := by
  cases same with
  | payment same =>
      rw [canPay, canPay, Payment.canPay, Payment.canPay, payable_same.currency_eq,
        same.currency_eq]
  | creditMemo same =>
      rw [canPay, canPay, payable_same.kind_eq, payable_same.side_eq, payable_same.currency_eq,
        same.side_eq, same.currency_eq]
  | purchaseInvoice same =>
      rw [canPay, canPay, payable_same.kind_eq, payable_same.side_eq, payable_same.currency_eq,
        same.currency_eq]

theorem Agrees.fits_eq (same : view.Agrees view') (payable_same : payable.Agrees payable') :
    view.fits payable = view'.fits payable' := by
  rw [fits, fits, same.canPay_eq payable_same, payable_same.initial.1.isNegative_eq,
    same.initial.isNegative_eq]

theorem Agrees.share (same : view.Agrees view') (payable_same : payable.Agrees payable') :
    SameOutcome Amounts.SameValue (view.share payable) (view'.share payable') := by
  have left := payable_same.remaining
  have taken := same.remaining
  unfold PaymentView.share
  rw [left.1.isNegative_eq, taken.isNegative_eq]
  split
  · apply (Money.respects_min left.1 taken).bind
    exact fun pay pay' pay_same => left.withPay pay_same
  · apply (Money.respects_max left.1 taken).bind
    exact fun pay pay' pay_same => left.withPay pay_same
  · exact .done left.withZeroPay

end PaymentView

/-! ## Lists of documents -/

/-- Places are the same wherever entries agree on the property. -/
theorem places_eq {α : Type} {related : α → α → Prop} {property : α → Bool}
    {entries entries' : List α} (same : List.Forall₂ related entries entries')
    (agree : ∀ left right, related left right → property left = property right) :
    places property entries = places property entries' := by
  rw [places, places, same.length_eq]
  apply List.filter_congr
  intro index _
  have entries_same := forall₂_rel same index
  generalize entries[index]? = entry at entries_same ⊢
  generalize entries'[index]? = entry' at entries_same ⊢
  cases entries_same with
  | none => rfl
  | some holds => exact agree _ _ holds

namespace Documents

/-- Entry by entry the same documents with the same money in every amount. -/
structure SameValue (left right : Documents) : Prop where
  payables : List.Forall₂ Payable.SameValue left.payables right.payables
  payments : List.Forall₂ Payment.SameValue left.payments right.payments

/-- Entry by entry the same documents, part by part. -/
structure Agrees (left right : Documents) : Prop where
  payables : List.Forall₂ Payable.Agrees left.payables right.payables
  payments : List.Forall₂ Payment.Agrees left.payments right.payments

variable {documents documents' : Documents}

theorem sameValue_iff_agrees : documents.SameValue documents' ↔ documents.Agrees documents' := by
  constructor
  · rintro ⟨payables, payments⟩
    exact ⟨payables.imp fun _ _ => Payable.sameValue_iff_agrees.mp,
      payments.imp fun _ _ => Payment.sameValue_iff_agrees.mp⟩
  · rintro ⟨payables, payments⟩
    exact ⟨payables.imp fun _ _ => Payable.sameValue_iff_agrees.mpr,
      payments.imp fun _ _ => Payment.sameValue_iff_agrees.mpr⟩

theorem entry_agrees {α : Type} {related : α → α → Prop} {entries entries' : List α}
    (same : List.Forall₂ related entries entries') (index : Nat) :
    SameOutcome related (entry entries index) (entry entries' index) := by
  have entries_same := forall₂_rel same index
  unfold entry
  rw [same.length_eq]
  generalize entries[index]? = entry at entries_same ⊢
  generalize entries'[index]? = entry' at entries_same ⊢
  cases entries_same with
  | none => exact .failed _
  | some holds => exact .done holds

theorem Agrees.view (same : documents.Agrees documents') (means : Means) :
    SameOutcome PaymentView.Agrees (documents.view means) (documents'.view means) := by
  cases means with
  | payment index =>
      exact (entry_agrees same.payments index).map fun _ _ => .payment
  | creditMemo index =>
      exact (entry_agrees same.payables index).map fun _ _ => .creditMemo
  | purchaseInvoice index =>
      exact (entry_agrees same.payables index).map fun _ _ => .purchaseInvoice

theorem changeEntry_agrees {α : Type} {related : α → α → Prop} {entries entries' : List α}
    (same : List.Forall₂ related entries entries') (index : Nat) {change change' : α → Attempt α}
    (changes : ∀ left right, related left right → (change left).Same related (change' right)) :
    (changeEntry entries index change).Same (List.Forall₂ related)
      (changeEntry entries' index change') := by
  have entries_same := forall₂_rel same index
  unfold changeEntry
  rw [same.length_eq]
  generalize entries[index]? = entry at entries_same ⊢
  generalize entries'[index]? = entry' at entries_same ⊢
  cases entries_same with
  | none => exact ⟨same, rfl⟩
  | some holds =>
      apply (changes _ _ holds).map
      exact fun changed changed' changed_same => forall₂_set same index changed_same

theorem Agrees.changePayable (same : documents.Agrees documents') (index : Nat)
    {change change' : Payable → Attempt Payable}
    (changes : ∀ left right, left.Agrees right →
      (change left).Same Payable.Agrees (change' right)) :
    (documents.changePayable index change).Same Agrees (documents'.changePayable index change') :=
  (changeEntry_agrees same.payables index changes).map fun _ _ payables =>
    { same with payables }

theorem Agrees.changePayment (same : documents.Agrees documents') (index : Nat)
    {change change' : Payment → Attempt Payment}
    (changes : ∀ left right, left.Agrees right →
      (change left).Same Payment.Agrees (change' right)) :
    (documents.changePayment index change).Same Agrees (documents'.changePayment index change') :=
  (changeEntry_agrees same.payments index changes).map fun _ _ payments =>
    { same with payments }

theorem Agrees.allocate (same : documents.Agrees documents') (index : Nat)
    {amounts amounts' : Amounts} (amounts_same : amounts.SameValue amounts') :
    (documents.allocate index amounts).Same Agrees (documents'.allocate index amounts') :=
  same.changePayable index fun _ _ payable_same => payable_same.allocate amounts_same

theorem Agrees.pay (same : documents.Agrees documents') (means : Means) {amount amount' : Money}
    (amount_same : amount.SameValue amount') :
    (documents.pay means amount).Same Agrees (documents'.pay means amount') := by
  cases means with
  | payment index =>
      exact same.changePayment index fun _ _ payment_same => payment_same.allocate amount_same
  | creditMemo index => exact same.allocate index (.ofPay amount_same.neg)
  | purchaseInvoice index => exact same.allocate index (.ofPay amount_same.neg)

end Documents
end Settlement
