import Settlement.Payable.Basic

/-!
# Payments

A payment proper, with its amount signed by its direction: money received is positive, money
paid out negative.  It keeps the amount that it started with, what has been allocated and what
remains.
-/

namespace Settlement

/-- A payment that can settle payables. -/
structure Payment where
  /-- The organization that the payment belongs to. -/
  organization : OrganizationId
  /-- The other party, where one is named. -/
  partner : Option PartyId
  /-- The number printed on the document. -/
  number : String
  /-- Whether the money is received or paid out. -/
  direction : Direction
  /-- The record of the payment. -/
  id : PaymentId
  /-- The open amount that over- and underpayments are counted from. -/
  openAmount : Money
  /-- The amount that the payment started with. -/
  initial : Money
  /-- What is left to allocate. -/
  remaining : Money
  /-- What has been allocated. -/
  allocated : Money
  deriving DecidableEq, Repr

namespace Payment

/-- Where the payment is kept. -/
def reference (payment : Payment) : Reference := .payment payment.id

/-- The currency of the payment is that of its initial amount. -/
def currency (payment : Payment) : Currency := payment.initial.currency

/-- Nothing is left to allocate. -/
def isFullyAllocated (payment : Payment) : Bool := payment.remaining.isZero

/-- Records an allocation: it counts as allocated first and is then taken off what remains. -/
def allocate (payment : Payment) (amount : Money) : Attempt Payment :=
  (Attempt.assign payment (payment.allocated.add amount) fun allocated =>
    { payment with allocated }).andThen fun payment =>
  Attempt.assign payment (payment.remaining.sub amount) fun remaining =>
    { payment with remaining }

/-- What would stay open of the payment after an allocation. -/
def projected (payment : Payment) (amount : Money) : Except Fault Money := do
  (← payment.openAmount.sub payment.allocated).sub amount

/-- A payment can settle any payable in its own currency. -/
def canPay (payment : Payment) (payable : Payable) : Bool :=
  payable.currency == payment.currency

/-- The same payment with the same money in every amount. -/
def SameValue (left right : Payment) : Prop :=
  left.organization = right.organization ∧ left.partner = right.partner ∧
    left.number = right.number ∧ left.direction = right.direction ∧ left.id = right.id ∧
    left.openAmount.SameValue right.openAmount ∧ left.initial.SameValue right.initial ∧
    left.remaining.SameValue right.remaining ∧ left.allocated.SameValue right.allocated

instance (left right : Payment) : Decidable (SameValue left right) :=
  inferInstanceAs (Decidable (_ ∧ _ ∧ _ ∧ _ ∧ _ ∧ _ ∧ _ ∧ _ ∧ _))

end Payment
end Settlement
