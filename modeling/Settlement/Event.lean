import Settlement.Candidate
import Settlement.Verdict

/-!
# Events of a run

What a run reports while it works, and the log record that each event is written as.
-/

namespace Settlement

/-- The passes of a run, in order. -/
inductive Pass where
  /-- Credit memos pay invoices. -/
  | creditMemos
  /-- Purchase invoices compensate sales invoices. -/
  | compensation
  /-- Payments pay payables. -/
  | payments
  /-- Money received stands against money paid out. -/
  | reversals
  /-- Discounts and write-offs that are still left. -/
  | remainders
  deriving DecidableEq, Repr

namespace Pass

/-- What a pass reports when it is through. -/
def summary : Pass → String
  | creditMemos => "Allocated credit memos to invoices"
  | compensation => "Allocated purchase invoices to sales invoices"
  | payments => "Allocated payments to payables"
  | reversals => "Allocated inbound payments to outbound payments"
  | remainders => "Allocated discounts and write-offs"

end Pass

/-- How much a log record matters. -/
inductive LogLevel where
  | debug | info | warning
  deriving DecidableEq, Repr

namespace LogLevel

/-- The name of a level. -/
def name : LogLevel → String
  | debug => "DEBUG"
  | info => "INFO"
  | warning => "WARN"

end LogLevel

/-- A value in a log record. -/
inductive LogValue where
  | text (text : String)
  | count (count : Nat)
  | flag (flag : Bool)
  deriving DecidableEq, Repr

/-- One log record. -/
structure LogRecord where
  /-- How much it matters. -/
  level : LogLevel
  /-- The span that it opens. -/
  span : Option String := none
  /-- Its fields. -/
  fields : List (String × LogValue)
  deriving DecidableEq, Repr

/-- What happens during a run. -/
inductive Event where
  /-- A build begins. -/
  | opened (payables payments : Nat) (dryRun : Bool)
  /-- A payable is matched with a document that acts as a payment. -/
  | matched (candidate : Candidate) (payableNumber : String) (payment : PaymentView)
  /-- A candidate comes from another pass. -/
  | proposed (candidate : Candidate)
  /-- A pass is through with a number of candidates. -/
  | passed (pass : Pass) (count : Nat)
  /-- A dry run leaves documents open. -/
  | leftOpen (documents : OpenDocuments)
  /-- A build is through. -/
  | built (candidates allocations : Nat) (fullyAllocated : Bool)
  deriving DecidableEq, Repr

namespace Event

/-- The log record of an event. -/
def record : Event → LogRecord
  | opened payables payments dryRun =>
      { level := .info
        span := some "build"
        fields := [("payables", .count payables), ("payments", .count payments),
          ("dry_run", .flag dryRun)] }
  | matched candidate payableNumber payment =>
      { level := .debug
        fields := [("message", .text "Allocation candidate"),
          ("candidate", .text candidate.display), ("payable_no", .text payableNumber),
          ("payment_type", .text payment.kind.name), ("payment_no", .text payment.number)] }
  | proposed candidate =>
      { level := .debug
        fields := [("message", .text "Allocation candidate"),
          ("candidate", .text candidate.display)] }
  | passed pass count =>
      { level := .debug
        fields := [("message", .text pass.summary), ("count", .count count)] }
  | leftOpen documents =>
      { level := .warning
        fields := [("message", .text "Dry run left documents not fully allocated"),
          ("failure", .text documents.describe)] }
  | built candidates allocations fullyAllocated =>
      { level := .info
        fields := [("message", .text "Payment allocation built"),
          ("candidates", .count candidates), ("allocations", .count allocations),
          ("fully_allocated", .flag fullyAllocated)] }

end Event
end Settlement
