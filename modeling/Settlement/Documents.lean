import Settlement.Payment.Basic

/-!
# Documents of a run

Every document of a run is kept once, at its place in a list.  Whatever can act as a payment is
named by its place: a payment proper, a credit memo that pays an invoice, or a purchase invoice
that compensates a sales invoice as if money had come in.  The last two are payables seen from
the other side, so their amounts appear with the opposite sign, and what is allocated through
them is taken off the payable itself.
-/

namespace Settlement

/-- The payables and payments of a run, in the order in which they are matched. -/
structure Documents where
  /-- The payables. -/
  payables : List Payable := []
  /-- The payments proper. -/
  payments : List Payment := []
  deriving DecidableEq, Repr

/-- A document that acts as a payment, named by its place among the documents. -/
inductive Means where
  /-- A payment proper. -/
  | payment (index : Nat)
  /-- A credit memo among the payables. -/
  | creditMemo (index : Nat)
  /-- A purchase invoice among the payables. -/
  | purchaseInvoice (index : Nat)
  deriving DecidableEq, Repr

/-- A document seen as a payment. -/
inductive PaymentView where
  | payment (payment : Payment)
  | creditMemo (payable : Payable)
  | purchaseInvoice (payable : Payable)
  deriving DecidableEq, Repr

namespace PaymentView

/-- What kind of payment the document acts as. -/
def kind : PaymentView → PaymentKind
  | payment _ => .directPayment
  | creditMemo _ => .creditMemo
  | purchaseInvoice _ => .purchaseInvoice

/-- The organization that the document belongs to. -/
def organization : PaymentView → OrganizationId
  | payment document => document.organization
  | creditMemo document | purchaseInvoice document => document.organization

/-- The other party. -/
def partner : PaymentView → Option PartyId
  | payment document => document.partner
  | creditMemo document | purchaseInvoice document => document.partner

/-- The number printed on the document. -/
def number : PaymentView → String
  | payment document => document.number
  | creditMemo document | purchaseInvoice document => document.number

/-- Where the document is kept. -/
def reference : PaymentView → Reference
  | payment document => document.reference
  | creditMemo document | purchaseInvoice document => document.reference

/-- The currency of the document. -/
def currency : PaymentView → Currency
  | payment document => document.currency
  | creditMemo document | purchaseInvoice document => document.currency

/-- The amount that the document started with, as a payment. -/
def initial : PaymentView → Money
  | payment document => document.initial
  | creditMemo document | purchaseInvoice document => document.initial.pay.neg

/-- The amount that is left, as a payment. -/
def remaining : PaymentView → Money
  | payment document => document.remaining
  | creditMemo document | purchaseInvoice document => document.remaining.pay.neg

/-- Nothing is left to pay with. -/
def isFullyAllocated : PaymentView → Bool
  | payment document => document.isFullyAllocated
  | creditMemo document | purchaseInvoice document => document.isFullyAllocated

/-- What would stay open of the document after an amount is paid with it. -/
def projected (view : PaymentView) (amount : Money) : Except Fault Money :=
  match view with
  | payment document => document.projected amount
  | creditMemo document | purchaseInvoice document => document.projected (Amounts.ofPay amount.neg)

/-- Whether the document may settle a payable: a credit memo settles invoices of its own side,
a purchase invoice sales invoices, and a payment anything in its currency. -/
def canPay (view : PaymentView) (payable : Payable) : Bool :=
  match view with
  | payment document => document.canPay payable
  | creditMemo memo =>
      payable.kind == .invoice && payable.side == memo.side && payable.currency == memo.currency
  | purchaseInvoice invoice =>
      payable.kind == .invoice && payable.side.isSales && payable.currency == invoice.currency

/-- Whether the document acts as money received or paid out; a purchase invoice always acts as
money received. -/
def direction : PaymentView → Direction
  | payment document => document.direction
  | creditMemo document => .ofSide document.side
  | purchaseInvoice _ => .inbound

end PaymentView

namespace Documents

/-- There are no documents. -/
def isEmpty (documents : Documents) : Bool :=
  documents.payables.isEmpty && documents.payments.isEmpty

/-- The entry at a place of a list. -/
def entry {α : Type} (entries : List α) (index : Nat) : Except Fault α :=
  match entries[index]? with
  | some value => .ok value
  | none => .error (.indexOutOfBounds entries.length index)

/-- The payable at a place. -/
def payable (documents : Documents) (index : Nat) : Except Fault Payable :=
  entry documents.payables index

/-- The payment at a place. -/
def payment (documents : Documents) (index : Nat) : Except Fault Payment :=
  entry documents.payments index

/-- A document seen as a payment. -/
def view (documents : Documents) : Means → Except Fault PaymentView
  | .payment index => .payment <$> documents.payment index
  | .creditMemo index => .creditMemo <$> documents.payable index
  | .purchaseInvoice index => .purchaseInvoice <$> documents.payable index

/-- Changes the entry at a place of a list. -/
def changeEntry {α : Type} (entries : List α) (index : Nat) (change : α → Attempt α) :
    Attempt (List α) :=
  match entries[index]? with
  | some value => (change value).map fun changed => entries.set index changed
  | none => ⟨entries, some (.indexOutOfBounds entries.length index)⟩

/-- Changes the payable at a place. -/
def changePayable (documents : Documents) (index : Nat) (change : Payable → Attempt Payable) :
    Attempt Documents :=
  (changeEntry documents.payables index change).map fun payables => { documents with payables }

/-- Changes the payment at a place. -/
def changePayment (documents : Documents) (index : Nat) (change : Payment → Attempt Payment) :
    Attempt Documents :=
  (changeEntry documents.payments index change).map fun payments => { documents with payments }

/-- Records an allocation to the payable at a place. -/
def allocate (documents : Documents) (index : Nat) (amounts : Amounts) : Attempt Documents :=
  documents.changePayable index fun payable => payable.allocate amounts

/-- Records an amount paid with a document.  Through a credit memo or purchase invoice the
opposite amount is allocated to the payable. -/
def pay (documents : Documents) (means : Means) (amount : Money) : Attempt Documents :=
  match means with
  | .payment index => documents.changePayment index fun payment => payment.allocate amount
  | .creditMemo index | .purchaseInvoice index =>
      documents.allocate index (Amounts.ofPay amount.neg)

/-- All payments proper, in order. -/
def means (documents : Documents) : List Means :=
  (List.range documents.payments.length).map .payment

end Documents
end Settlement
