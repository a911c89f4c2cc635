import Settlement.Candidate
import Settlement.Documents
import Settlement.Header
import Settlement.Json.Values
import Settlement.Settings.Basic

/-!
# Documents, candidates, headers and settings in JSON

Records are read field by field.  Nothing beyond the fields is checked, so a record that is read
may break rules that a completed draft keeps.
-/

namespace Settlement

open JsonCodec (write)
open JsonValue (needed? defaulted?)

namespace Payable

/-- The fields of a payable. -/
def fieldNames : List String :=
  ["doc_type", "org_id", "bpartner_id", "document_no", "so_trx", "credit_memo", "reference",
    "open_amt", "initial", "remaining", "allocated"]

instance : JsonCodec Payable where
  write payable :=
    .record fieldNames
      [write payable.kind, write payable.organization, write payable.partner,
        write payable.number, write payable.side, write payable.creditMemo,
        write payable.reference, write payable.openAmount, write payable.initial,
        write payable.remaining, write payable.allocated]
  read? json :=
    match json.fields? fieldNames with
    | some [kind, organization, partner, number, side, creditMemo, reference, openAmount,
        initial, remaining, allocated] => do
        return {
          kind := ← needed? kind
          organization := ← needed? organization
          partner := ← defaulted? none partner
          number := ← needed? number
          side := ← needed? side
          creditMemo := ← needed? creditMemo
          reference := ← needed? reference
          openAmount := ← needed? openAmount
          initial := ← needed? initial
          remaining := ← needed? remaining
          allocated := ← needed? allocated }
    | _ => none

end Payable

namespace Payment

/-- The fields of a payment. -/
def fieldNames : List String :=
  ["org_id", "bpartner_id", "document_no", "direction", "payment_id", "open_amt", "initial",
    "remaining", "allocated"]

instance : JsonCodec Payment where
  write payment :=
    .record fieldNames
      [write payment.organization, write payment.partner, write payment.number,
        write payment.direction, write payment.id, write payment.openAmount,
        write payment.initial, write payment.remaining, write payment.allocated]
  read? json :=
    match json.fields? fieldNames with
    | some [organization, partner, number, direction, id, openAmount, initial, remaining,
        allocated] => do
        return {
          organization := ← needed? organization
          partner := ← defaulted? none partner
          number := ← needed? number
          direction := ← needed? direction
          id := ← needed? id
          openAmount := ← needed? openAmount
          initial := ← needed? initial
          remaining := ← needed? remaining
          allocated := ← needed? allocated }
    | _ => none

end Payment

namespace Candidate

/-- The fields of a candidate. -/
def fieldNames : List String :=
  ["candidate_type", "org_id", "bpartner_id", "payable_ref", "payment_ref", "amounts",
    "payable_over_under_amt", "payment_over_under_amt"]

instance : JsonCodec Candidate where
  write candidate :=
    .record fieldNames
      [write candidate.kind, write candidate.organization, write candidate.partner,
        write candidate.payable, write candidate.payment, write candidate.amounts,
        write candidate.payableOverUnder, write candidate.paymentOverUnder]
  read? json :=
    match json.fields? fieldNames with
    | some [kind, organization, partner, payable, payment, amounts, payableOverUnder,
        paymentOverUnder] => do
        return {
          kind := ← needed? kind
          organization := ← needed? organization
          partner := ← defaulted? none partner
          payable := ← needed? payable
          payment := ← defaulted? none payment
          amounts := ← needed? amounts
          payableOverUnder := ← needed? payableOverUnder
          paymentOverUnder := ← needed? paymentOverUnder }
    | _ => none

end Candidate

namespace HeaderLine

/-- The fields of a header line. -/
def fieldNames : List String :=
  ["org_id", "bpartner_id", "invoice_id", "payment_id", "amount", "discount_amt",
    "write_off_amt", "over_under_amt"]

instance : JsonCodec HeaderLine where
  write line :=
    .record fieldNames
      [write line.organization, write line.partner, write line.invoice, write line.payment,
        write line.amount, write line.discount, write line.writeOff, write line.overUnder]
  read? json :=
    match json.fields? fieldNames with
    | some [organization, partner, invoice, payment, amount, discount, writeOff, overUnder] => do
        return {
          organization := ← needed? organization
          partner := ← defaulted? none partner
          invoice := ← defaulted? none invoice
          payment := ← defaulted? none payment
          amount := ← needed? amount
          discount := ← needed? discount
          writeOff := ← needed? writeOff
          overUnder := ← needed? overUnder }
    | _ => none

end HeaderLine

namespace Header

/-- The fields of a header. -/
def fieldNames : List String :=
  ["org_id", "currency", "date_trx", "date_acct", "manual", "lines"]

instance : JsonCodec Header where
  write header :=
    .record fieldNames
      [write header.organization, write header.currency, write header.transactionDate,
        write header.accountingDate, write header.manual, write header.lines]
  read? json :=
    match json.fields? fieldNames with
    | some [organization, currency, transactionDate, accountingDate, manual, lines] => do
        return {
          organization := ← needed? organization
          currency := ← needed? currency
          transactionDate := ← needed? transactionDate
          accountingDate := ← needed? accountingDate
          manual := ← needed? manual
          lines := ← needed? lines }
    | _ => none

end Header

namespace CompletedAllocation

/-- The fields of a completed allocation. -/
def fieldNames : List String := ["allocation_id", "line_ids"]

instance : JsonCodec CompletedAllocation where
  write completed := .record fieldNames [write completed.allocation, write completed.lines]
  read? json :=
    match json.fields? fieldNames with
    | some [allocation, lines] => do
        return { allocation := ← needed? allocation, lines := ← needed? lines }
    | _ => none

end CompletedAllocation

namespace Settings

/-- The fields of the settings. -/
def fieldNames : List String :=
  ["allow_only_one_vendor_doc", "allow_partial_allocations",
    "allow_purchase_sales_invoice_compensation", "remaining_open_amount_policy"]

/-- A field of the settings that is missing keeps its default. -/
instance : JsonCodec Settings where
  write settings :=
    .record fieldNames
      [write settings.onlyOneVendorDocument, write settings.partialAllocations,
        write settings.compensation, write settings.leftover]
  read? json :=
    match json.sparseFields? fieldNames with
    | some [onlyOneVendorDocument, partialAllocations, compensation, leftover] => do
        let default : Settings := {}
        return {
          onlyOneVendorDocument := ← defaulted? default.onlyOneVendorDocument onlyOneVendorDocument
          partialAllocations := ← defaulted? default.partialAllocations partialAllocations
          compensation := ← defaulted? default.compensation compensation
          leftover := ← defaulted? default.leftover leftover }
    | _ => none

end Settings
end Settlement
