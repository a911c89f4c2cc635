import Settlement.Identifier

/-!
# References to documents

A reference names the table that a document is kept in and its record there.
-/

namespace Settlement

/-- The table and record of a document. -/
inductive Reference where
  /-- An invoice or credit memo. -/
  | invoice (id : InvoiceId)
  /-- A payment. -/
  | payment (id : PaymentId)
  /-- An order. -/
  | order (id : OrderId)
  deriving DecidableEq, Repr

namespace Reference

/-- The name of the table. -/
def table : Reference → String
  | invoice _ => "C_Invoice"
  | payment _ => "C_Payment"
  | order _ => "C_Order"

/-- The record, where it is an invoice. -/
def invoiceId? : Reference → Option InvoiceId
  | invoice id => some id
  | payment _ | order _ => none

/-- The record, where it is a payment. -/
def paymentId? : Reference → Option PaymentId
  | payment id => some id
  | invoice _ | order _ => none

/-- The labelled identifier of the record. -/
def display : Reference → String
  | invoice id => id.display
  | payment id => id.display
  | order id => id.display

/-- The reference in log records: its kind and the bare value of its identifier. -/
def describe : Reference → String
  | invoice id => s!"Invoice(InvoiceId({id.uuid.toText}))"
  | payment id => s!"Payment(PaymentId({id.uuid.toText}))"
  | order id => s!"Order(OrderId({id.uuid.toText}))"

/-- Several references, divided by commas. -/
def displayAll (references : List Reference) : String :=
  ", ".intercalate (references.map display)

end Reference
end Settlement
