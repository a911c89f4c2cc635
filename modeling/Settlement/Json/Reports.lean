import Settlement.Json.Records
import Settlement.Run.Basic

/-!
# Reports in JSON

What is shown of errors, balances, verdicts, log records, ledgers and results.  Reports are
written and never read, so they name documents and parties by their labelled identifiers, and
what a ledger holds by its place.
-/

namespace Settlement

open JsonCodec (write)

namespace JsonValue

/-- A count. -/
def ofNat (count : Nat) : JsonValue := integer count

/-- A value that may be absent. -/
def orNull {α : Type} (report : α → JsonValue) : Option α → JsonValue
  | some value => report value
  | none => null

/-- A value named by a letter and its place in a list; a value that is not there is unknown. -/
def place {α : Type} [BEq α] (letter : String) (values : List α) (value : α) : JsonValue :=
  match values.idxOf? value with
  | some index => string s!"{letter}{index}"
  | none => string "?"

end JsonValue

open JsonValue (orNull place)

/-- An identifier with its label. -/
def Identifier.report {kind : RecordKind} (identifier : Identifier kind) : JsonValue :=
  .string identifier.display

/-- A reference by its labelled identifier. -/
def Reference.report (reference : Reference) : JsonValue := .string reference.display

namespace AllocationError

/-- The name of the kind of an error. -/
def name : AllocationError → String
  | alreadyBuilt => "AlreadyBuilt"
  | configuration _ => "Configuration"
  | sameDocument _ => "SameDocumentReference"
  | missingPayment _ => "MissingPaymentReference"
  | overUnderCurrency _ _ => "OverUnderCurrencyMismatch"
  | invalidDocument _ => "InvalidDocument"
  | noDocuments => "NoDocuments"
  | multipleVendorDocuments _ _ => "MultipleVendorDocuments"
  | unsupportedPair _ _ => "UnsupportedDocumentPair"
  | payablesNotAllocated _ => "PayableDocumentsNotAllocated"
  | paymentsNotAllocated _ => "PaymentDocumentsNotAllocated"
  | money _ => "Money"
  | persistence _ => "Persistence"

/-- An error with its text. -/
def report (error : AllocationError) : JsonValue :=
  .object [("error", .string error.name), ("message", .string error.message),
    ("not_fully_allocated", .bool error.isNotFullyAllocated)]

end AllocationError

/-- Money with its display and its sign. -/
def Money.report (money : Money) : JsonValue :=
  .object [("amount", write money.amount), ("currency", write money.currency),
    ("display", .string money.display), ("is_zero", .bool money.isZero),
    ("is_positive", .bool money.isPositive), ("is_negative", .bool money.isNegative),
    ("signum", .integer money.signum)]

/-- A payable with its type. -/
def Payable.report (payable : Payable) : JsonValue :=
  .object [("json", write payable), ("fully", .bool payable.isFullyAllocated),
    ("reference", payable.reference.report),
    ("base_type", orNull (fun type => .string type.code) payable.invoiceType?),
    ("currency", write payable.currency)]

/-- A payment with its direction. -/
def Payment.report (payment : Payment) : JsonValue :=
  .object [("json", write payment), ("fully", .bool payment.isFullyAllocated),
    ("reference", payment.reference.report), ("payment_id", payment.id.report),
    ("currency", write payment.currency), ("inbound", .bool payment.direction.isInbound)]

/-- The balance of a payable. -/
def Payable.balance (payable : Payable) : JsonValue :=
  .object [("reference", payable.reference.report), ("remaining", write payable.remaining),
    ("allocated", write payable.allocated), ("fully", .bool payable.isFullyAllocated),
    ("untouched", .bool (decide (payable.remaining.SameValue payable.initial))),
    ("open", write payable.openAmount)]

/-- The balance of a payment. -/
def Payment.balance (payment : Payment) : JsonValue :=
  .object [("reference", payment.reference.report), ("remaining", write payment.remaining),
    ("allocated", write payment.allocated), ("fully", .bool payment.isFullyAllocated),
    ("untouched", .bool (decide (payment.remaining.SameValue payment.initial))),
    ("open", write payment.openAmount)]

/-- A document seen as a payment. -/
def PaymentView.report (view : PaymentView) : JsonValue :=
  .object [("document_type", write view.kind), ("org_id", view.organization.report),
    ("bpartner_id", orNull Identifier.report view.partner), ("document_no", .string view.number),
    ("reference", view.reference.report), ("currency", write view.currency),
    ("initial", write view.initial), ("remaining", write view.remaining),
    ("fully", .bool view.isFullyAllocated), ("direction", write view.direction)]

/-- A candidate with its display. -/
def Candidate.report (candidate : Candidate) : JsonValue :=
  .object [("json", write candidate), ("display", .string candidate.display),
    ("type", write candidate.kind)]

/-- Documents that stayed open. -/
def OpenDocuments.report : OpenDocuments → JsonValue
  | payables references =>
      .array [.string "payables", .array (references.map Reference.report)]
  | payments references =>
      .array [.string "payments", .array (references.map Reference.report)]

namespace Verdict

/-- The error of a verdict, if it is turned into one. -/
def raised? (verdict : Verdict) : Option AllocationError :=
  match verdict.raise with
  | .ok () => none
  | .error error => some error

/-- A verdict with the error that it can be turned into. -/
def report (verdict : Verdict) : JsonValue :=
  .object [("passed", .bool verdict.isPassed),
    ("failure", orNull OpenDocuments.report verdict.failure?),
    ("raise", orNull AllocationError.report verdict.raised?)]

end Verdict

/-- A value in a log record. -/
def LogValue.report : LogValue → JsonValue
  | text value => .string value
  | count value => .ofNat value
  | flag value => .bool value

/-- A log record; only one that opens a span names it. -/
def LogRecord.report (record : LogRecord) : JsonValue :=
  let span := record.span.map fun name => ("span", JsonValue.string name)
  .object ([("level", .string record.level.name),
    ("fields", .object (record.fields.map fun (name, value) => (name, value.report)))] ++
    span.toList)

/-- A booked header with its lines and their counter lines, which are named by their places. -/
def StoredAllocation.report (ledger : Ledger) (entry : StoredAllocation) : JsonValue :=
  let line := place "L" ledger.lineIds
  .object [("header", write entry.header), ("lines", .array (entry.lines.map line)),
    ("counters", .array (entry.lines.map fun id => orNull line (ledger.counter? id)))]

/-- A manager and what its ledger holds. -/
def MemoryManager.report (manager : MemoryManager) : JsonValue :=
  .object [("headers", .array (manager.ledger.entries.map (·.report manager.ledger))),
    ("line_count", .ofNat manager.ledger.lineCount), ("commits", .ofNat manager.commits),
    ("rollbacks", .ofNat manager.rollbacks)]

namespace RunResult

/-- The headers that a result names, by their places in a ledger. -/
def bookedPlaces (result : RunResult) (ledger : Ledger) : JsonValue :=
  .array (result.allocations.map (place "A" (ledger.entries.map (·.id))))

/-- A result; with a ledger it also names the headers that were booked. -/
def report (ledger : Option Ledger) (result : RunResult) : JsonValue :=
  .object ([("candidates", .array (result.candidates.map Candidate.report)),
    ("check", result.verdict.report), ("is_fully_allocated", .bool result.verdict.isPassed)] ++
    (ledger.map fun ledger => ("ids", result.bookedPlaces ledger)).toList)

end RunResult

end Settlement
