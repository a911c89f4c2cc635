import Settlement.Word

/-!
# Kinds of documents

The vocabulary of the documents that take part in a settlement: which side of the trade they
belong to, which way their money flows, and what kind of payable or means of payment they are.
-/

namespace Settlement

/-- The side of a trade: a sale to a customer or a purchase from a vendor. -/
inductive TradeSide where
  | sales | purchase
  deriving DecidableEq, Repr

namespace TradeSide

instance : Worded TradeSide where
  all := [sales, purchase]
  word
    | sales => "sales"
    | purchase => "purchase"
  mem_all := by intro side; cases side <;> decide
  word_injective := by intro left right; cases left <;> cases right <;> decide

/-- The customer's side. -/
def isSales : TradeSide → Bool
  | sales => true
  | purchase => false

/-- The vendor's side. -/
def isPurchase : TradeSide → Bool
  | sales => false
  | purchase => true

theorem isSales_iff {side : TradeSide} : side.isSales = true ↔ side = .sales := by
  cases side <;> decide

theorem isPurchase_iff {side : TradeSide} : side.isPurchase = true ↔ side = .purchase := by
  cases side <;> decide

end TradeSide

/-- The way that money flows. -/
inductive Direction where
  | inbound | outbound
  deriving DecidableEq, Repr

namespace Direction

instance : Worded Direction where
  all := [inbound, outbound]
  word
    | inbound => "inbound"
    | outbound => "outbound"
  mem_all := by intro direction; cases direction <;> decide
  word_injective := by intro left right; cases left <;> cases right <;> decide

/-- Sales are settled by money received, purchases by money paid out. -/
def ofSide : TradeSide → Direction
  | .sales => inbound
  | .purchase => outbound

/-- Money is received. -/
def isInbound : Direction → Bool
  | inbound => true
  | outbound => false

/-- Money is paid out. -/
def isOutbound : Direction → Bool
  | inbound => false
  | outbound => true

end Direction

/-- The kinds of payable documents: invoices, credit memos among them, and orders that are paid
before delivery. -/
inductive PayableKind where
  | invoice | prepayOrder
  deriving DecidableEq, Repr

namespace PayableKind

instance : Worded PayableKind where
  all := [invoice, prepayOrder]
  word
    | invoice => "invoice"
    | prepayOrder => "prepay_order"
  mem_all := by intro kind; cases kind <;> decide
  word_injective := by intro left right; cases left <;> cases right <;> decide

/-- The name of a kind in error texts. -/
def name : PayableKind → String
  | invoice => "Invoice"
  | prepayOrder => "PrepayOrder"

end PayableKind

/-- The kinds of documents that act as a payment. -/
inductive PaymentKind where
  /-- A payment proper. -/
  | directPayment
  /-- A credit memo that pays an invoice. -/
  | creditMemo
  /-- A purchase invoice that compensates a sales invoice. -/
  | purchaseInvoice
  deriving DecidableEq, Repr

namespace PaymentKind

instance : Worded PaymentKind where
  all := [directPayment, creditMemo, purchaseInvoice]
  word
    | directPayment => "direct_payment"
    | creditMemo => "credit_memo"
    | purchaseInvoice => "purchase_invoice"
  mem_all := by intro kind; cases kind <;> decide
  word_injective := by intro left right; cases left <;> cases right <;> decide

/-- The name of a kind in log records. -/
def name : PaymentKind → String
  | directPayment => "DirectPayment"
  | creditMemo => "CreditMemo"
  | purchaseInvoice => "PurchaseInvoice"

end PaymentKind

/-- The four types of invoices. -/
inductive InvoiceType where
  | vendorInvoice | vendorCreditMemo | customerInvoice | customerCreditMemo
  deriving DecidableEq, Repr

namespace InvoiceType

instance : Worded InvoiceType where
  all := [vendorInvoice, vendorCreditMemo, customerInvoice, customerCreditMemo]
  word
    | vendorInvoice => "VendorInvoice"
    | vendorCreditMemo => "VendorCreditMemo"
    | customerInvoice => "CustomerInvoice"
    | customerCreditMemo => "CustomerCreditMemo"
  mem_all := by intro type; cases type <;> decide
  word_injective := by intro left right; cases left <;> cases right <;> decide

/-- The code of a type. -/
def code : InvoiceType → String
  | vendorInvoice => "API"
  | vendorCreditMemo => "APC"
  | customerInvoice => "ARI"
  | customerCreditMemo => "ARC"

/-- The type with a code, in exactly this spelling. -/
def ofCode? (code : String) : Option InvoiceType :=
  Worded.all.find? fun type : InvoiceType => type.code == code

/-- The side of the trade that a type belongs to. -/
def side : InvoiceType → TradeSide
  | vendorInvoice | vendorCreditMemo => .purchase
  | customerInvoice | customerCreditMemo => .sales

/-- Whether a type is a credit memo. -/
def isCreditMemo : InvoiceType → Bool
  | vendorInvoice | customerInvoice => false
  | vendorCreditMemo | customerCreditMemo => true

/-- The type on a side, credit memo or not. -/
def ofSide : TradeSide → (creditMemo : Bool) → InvoiceType
  | .sales, false => customerInvoice
  | .sales, true => customerCreditMemo
  | .purchase, false => vendorInvoice
  | .purchase, true => vendorCreditMemo

@[simp]
theorem ofSide_side (type : InvoiceType) : ofSide type.side type.isCreditMemo = type := by
  cases type <;> rfl

@[simp]
theorem side_ofSide (side : TradeSide) (creditMemo : Bool) :
    (ofSide side creditMemo).side = side := by
  cases side <;> cases creditMemo <;> rfl

@[simp]
theorem isCreditMemo_ofSide (side : TradeSide) (creditMemo : Bool) :
    (ofSide side creditMemo).isCreditMemo = creditMemo := by
  cases side <;> cases creditMemo <;> rfl

end InvoiceType

/-- The passes of a settlement that candidates come from. -/
inductive CandidateKind where
  | invoiceToPayment
  | salesInvoiceToPurchaseInvoice
  | invoiceToCreditMemo
  | invoiceDiscountOrWriteOff
  | inboundPaymentToOutboundPayment
  deriving DecidableEq, Repr

namespace CandidateKind

instance : Worded CandidateKind where
  all := [invoiceToPayment, salesInvoiceToPurchaseInvoice, invoiceToCreditMemo,
    invoiceDiscountOrWriteOff, inboundPaymentToOutboundPayment]
  word
    | invoiceToPayment => "InvoiceToPayment"
    | salesInvoiceToPurchaseInvoice => "SalesInvoiceToPurchaseInvoice"
    | invoiceToCreditMemo => "InvoiceToCreditMemo"
    | invoiceDiscountOrWriteOff => "InvoiceDiscountOrWriteOff"
    | inboundPaymentToOutboundPayment => "InboundPaymentToOutboundPayment"
  mem_all := by intro kind; cases kind <;> decide
  word_injective := by intro left right; cases left <;> cases right <;> decide

end CandidateKind

/-- What becomes of a payable amount that no payment could cover. -/
inductive LeftoverPolicy where
  /-- The amount stays open. -/
  | leaveOpen
  /-- The amount is written off. -/
  | writeOff
  /-- The amount is granted as a discount. -/
  | discount
  deriving DecidableEq, Repr

namespace LeftoverPolicy

instance : Worded LeftoverPolicy where
  all := [leaveOpen, writeOff, discount]
  word
    | leaveOpen => "leave_open"
    | writeOff => "write_off"
    | discount => "discount"
  mem_all := by intro policy; cases policy <;> decide
  word_injective := by intro left right; cases left <;> cases right <;> decide

end LeftoverPolicy
end Settlement
