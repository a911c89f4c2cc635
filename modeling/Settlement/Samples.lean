import Settlement.Payment.Draft
import Settlement.Date

/-!
# Sample documents

Documents with the usual defaults, for trying things out.  A sample gives its amounts without a
sign and names the type of the document; making the document signs them.
-/

namespace Settlement

namespace Samples

/-- The organization of all samples. -/
def organization : OrganizationId := .ofNat 0x01920000000070008000000000000001

/-- The other party of all samples. -/
def partner : PartyId := .ofNat 0x01920000000070008000000000000002

/-- The day of a sample transaction. -/
def transactionDate : Date := ⟨2024, 3, 15, by decide⟩

/-- The day that a sample transaction counts for in the accounts. -/
def accountingDate : Date := ⟨2024, 3, 31, by decide⟩

/-- The number of a sample invoice. -/
def invoiceNumber : String := "ARI-2024-000123"

/-- The number of a sample payment. -/
def paymentNumber : String := "PAY-2024-000456"

end Samples

/-- A sample payable, with unsigned amounts. -/
structure SamplePayable where
  /-- The type of the invoice; a prepay order counts as a sales invoice. -/
  type : InvoiceType
  /-- Whether the sample is a prepay order. -/
  prepayOrder : Bool := false
  /-- The record, whichever table it is in. -/
  record : Uuid
  /-- The organization. -/
  organization : OrganizationId := Samples.organization
  /-- The other party. -/
  partner : PartyId := Samples.partner
  /-- The currency of all amounts. -/
  currency : Currency := .usd
  /-- The amount to pay. -/
  pay : Decimal
  /-- The discount that goes with it. -/
  discount : Decimal := Decimal.zero
  /-- The write-off that goes with it. -/
  writeOff : Decimal := Decimal.zero
  /-- The open amount, where it is not the total. -/
  openAmount : Option Decimal := none
  deriving DecidableEq, Repr

namespace SamplePayable

/-- Whether documents of a type carry negative amounts: purchases do and so do credit memos, but
not both at once. -/
def isNegative (type : InvoiceType) : Bool :=
  match type.side with
  | .sales => type.isCreditMemo
  | .purchase => !type.isCreditMemo

/-- An unsigned amount with the sign of the sample's type. -/
def signed (sample : SamplePayable) (amount : Decimal) : Money :=
  Money.of (if isNegative sample.type then amount.neg else amount) sample.currency

/-- The draft of the sample. -/
def draft (sample : SamplePayable) : Payable.Draft :=
  { kind := if sample.prepayOrder then .prepayOrder else .invoice
    organization := some sample.organization
    partner := some sample.partner
    number := Samples.invoiceNumber
    side := some sample.type.side
    creditMemo := sample.type.isCreditMemo
    reference := some
      (if sample.prepayOrder then .order ⟨sample.record⟩ else .invoice ⟨sample.record⟩)
    openAmount := sample.openAmount.map sample.signed
    amounts := some
      ⟨sample.signed sample.pay, sample.signed sample.discount, sample.signed sample.writeOff⟩ }

/-- The sample as a document. -/
def complete (sample : SamplePayable) : Except Failure Payable := sample.draft.complete

end SamplePayable

/-- A sample payment, with unsigned amounts. -/
structure SamplePayment where
  /-- Whether the money is received or paid out. -/
  direction : Direction
  /-- The record. -/
  id : PaymentId
  /-- The organization. -/
  organization : OrganizationId := Samples.organization
  /-- The other party. -/
  partner : PartyId := Samples.partner
  /-- The currency of all amounts. -/
  currency : Currency := .usd
  /-- The amount to allocate. -/
  amount : Decimal
  /-- The open amount, where it is not the amount to allocate. -/
  openAmount : Option Decimal := none
  deriving DecidableEq, Repr

namespace SamplePayment

/-- The sample as a document. -/
def complete (sample : SamplePayment) : Except Failure Payment :=
  Payment.Draft.complete {
    organization := some sample.organization
    partner := some sample.partner
    number := Samples.paymentNumber
    direction := some sample.direction
    id := some sample.id
    openAmount := sample.openAmount.map fun amount => Money.of amount sample.currency
    amount := some (Money.of sample.amount sample.currency) }

end SamplePayment
end Settlement
