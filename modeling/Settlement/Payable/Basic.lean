import Settlement.Amounts
import Settlement.DocumentKind
import Settlement.Error

/-!
# Payables

A payable is a document that money is owed for: an invoice, a credit memo or a prepay order.  It
keeps the amounts that it started with, what has been allocated to it and what remains.  Amounts
are signed like the payment that settles them, so sales invoices and vendor credit memos are
positive, purchase invoices and customer credit memos negative.
-/

namespace Settlement

/-- A document that money is owed for. -/
structure Payable where
  /-- Invoice or prepay order. -/
  kind : PayableKind
  /-- The organization that the document belongs to. -/
  organization : OrganizationId
  /-- The other party, where one is named. -/
  partner : Option PartyId
  /-- The number printed on the document. -/
  number : String
  /-- The side of the trade. -/
  side : TradeSide
  /-- Whether the document takes back what another one charges. -/
  creditMemo : Bool
  /-- Where the document is kept. -/
  reference : Reference
  /-- The open amount that over- and underpayments are counted from. -/
  openAmount : Money
  /-- The amounts that the document started with. -/
  initial : Amounts
  /-- What is left to allocate. -/
  remaining : Amounts
  /-- What has been allocated. -/
  allocated : Amounts
  deriving DecidableEq, Repr

namespace Payable

/-- The type of an invoice; orders have none. -/
def invoiceType? (payable : Payable) : Option InvoiceType :=
  match payable.kind with
  | .invoice => some (.ofSide payable.side payable.creditMemo)
  | .prepayOrder => none

/-- The currency of the document is that of its initial amounts. -/
def currency (payable : Payable) : Currency := payable.initial.currency

/-- Nothing is left to pay.  Discount and write-off may still be left. -/
def isFullyAllocated (payable : Payable) : Bool := payable.remaining.pay.isZero

/-- Records an allocation: it counts as allocated first and is then taken off what remains. -/
def allocate (payable : Payable) (amounts : Amounts) : Attempt Payable :=
  (Attempt.assign payable (payable.allocated.add amounts) fun allocated =>
    { payable with allocated }).andThen fun payable =>
  Attempt.assign payable (payable.remaining.sub amounts) fun remaining =>
    { payable with remaining }

/-- What would stay open of the document after an allocation: negative where it is overpaid. -/
def projected (payable : Payable) (amounts : Amounts) : Except Fault Money := do
  let unallocated ← payable.openAmount.sub (← payable.allocated.total)
  unallocated.sub (← amounts.total)

/-- What is left to pay becomes discount. -/
def remainderToDiscount (payable : Payable) : Attempt Payable :=
  Attempt.assign payable payable.remaining.payToDiscount fun remaining =>
    { payable with remaining }

/-- What is left to pay is written off. -/
def remainderToWriteOff (payable : Payable) : Attempt Payable :=
  Attempt.assign payable payable.remaining.payToWriteOff fun remaining =>
    { payable with remaining }

/-- The same document with the same money in every amount. -/
def SameValue (left right : Payable) : Prop :=
  left.kind = right.kind ∧ left.organization = right.organization ∧
    left.partner = right.partner ∧ left.number = right.number ∧ left.side = right.side ∧
    left.creditMemo = right.creditMemo ∧ left.reference = right.reference ∧
    left.openAmount.SameValue right.openAmount ∧ left.initial.SameValue right.initial ∧
    left.remaining.SameValue right.remaining ∧ left.allocated.SameValue right.allocated

instance (left right : Payable) : Decidable (SameValue left right) :=
  inferInstanceAs
    (Decidable (_ ∧ _ ∧ _ ∧ _ ∧ _ ∧ _ ∧ _ ∧ _ ∧ _ ∧ _ ∧ _))

end Payable
end Settlement
