import Settlement.Candidate
import Settlement.Date

/-!
# Allocation headers

What is booked for a candidate: a header with one line for the payable and, where another invoice
or an outbound payment stands against it, a counter line with the opposite amount.  Lines that
move nothing are left out.
-/

namespace Settlement

/-- One booked line. -/
structure HeaderLine where
  /-- The organization that the line belongs to. -/
  organization : OrganizationId
  /-- The other party. -/
  partner : Option PartyId
  /-- The invoice that the line settles. -/
  invoice : Option InvoiceId := none
  /-- The payment that the line uses. -/
  payment : Option PaymentId := none
  /-- The settled amount. -/
  amount : Money
  /-- The discount granted. -/
  discount : Money
  /-- The amount written off. -/
  writeOff : Money
  /-- What stays open. -/
  overUnder : Money
  deriving DecidableEq, Repr

namespace HeaderLine

/-- A line that moves nothing. -/
def blank (organization : OrganizationId) (partner : Option PartyId) (currency : Currency) :
    HeaderLine where
  organization := organization
  partner := partner
  amount := Money.zero currency
  discount := Money.zero currency
  writeOff := Money.zero currency
  overUnder := Money.zero currency

/-- Nothing is settled, granted or written off, and nothing stays open. -/
def isAllZero (line : HeaderLine) : Bool :=
  line.amount.isZero && line.discount.isZero && line.writeOff.isZero && line.overUnder.isZero

end HeaderLine

/-- A header that can be booked. -/
structure Header where
  /-- The organization that the header belongs to. -/
  organization : OrganizationId
  /-- The currency of its lines. -/
  currency : Currency
  /-- The day of the transaction. -/
  transactionDate : Date
  /-- The day that it counts for in the accounts. -/
  accountingDate : Date
  /-- A user asked for the allocation. -/
  manual : Bool := true
  /-- The lines, in order. -/
  lines : List HeaderLine := []
  deriving DecidableEq, Repr

namespace Header

/-- Adds a line, unless it moves nothing. -/
def addLine (header : Header) (line : HeaderLine) : Header :=
  if line.isAllZero then header else { header with lines := header.lines ++ [line] }

/-- There is nothing to book. -/
def isEmpty (header : Header) : Bool := header.lines.isEmpty

/-- The line of the payable of a candidate, without the documents. -/
def payableLine (candidate : Candidate) : HeaderLine :=
  { HeaderLine.blank candidate.organization candidate.partner candidate.currency with
    amount := candidate.amounts.pay
    discount := candidate.amounts.discount
    writeOff := candidate.amounts.writeOff
    overUnder := candidate.payableOverUnder }

/-- The line that stands against the payable of a candidate, without the documents. -/
def counterLine (candidate : Candidate) : HeaderLine :=
  { HeaderLine.blank candidate.organization candidate.partner candidate.currency with
    amount := candidate.amounts.pay.neg
    overUnder := candidate.paymentOverUnder }

/-- The lines for a candidate.  An invoice and a payment share one line; two invoices or two
payments stand against each other on two; an invoice without a payment has its own line.  No
other pair can be booked. -/
def linesFor (candidate : Candidate) : Except AllocationError (List HeaderLine) :=
  match candidate.payable, candidate.payment with
  | .invoice invoice, some (.payment payment) =>
      .ok [{ payableLine candidate with invoice := some invoice, payment := some payment }]
  | .invoice invoice, some (.invoice counter) =>
      .ok [{ payableLine candidate with invoice := some invoice },
        { counterLine candidate with invoice := some counter }]
  | .invoice invoice, none =>
      .ok [{ payableLine candidate with invoice := some invoice }]
  | .payment outbound, some (.payment inbound) =>
      .ok [{ payableLine candidate with payment := some outbound },
        { counterLine candidate with payment := some inbound }]
  | payable, payment => .error (.unsupportedPair payable payment)

/-- The header for a candidate. -/
def ofCandidate (transactionDate accountingDate : Date) (candidate : Candidate) :
    Except AllocationError Header := do
  let lines ← linesFor candidate
  let header : Header :=
    { organization := candidate.organization
      currency := candidate.currency
      transactionDate
      accountingDate }
  return lines.foldl addLine header

end Header

/-- The identifiers that a booked header and its lines were given. -/
structure CompletedAllocation where
  /-- The identifier of the header. -/
  allocation : AllocationId
  /-- The identifiers of the lines, in order. -/
  lines : List AllocationLineId
  deriving DecidableEq, Repr

end Settlement
