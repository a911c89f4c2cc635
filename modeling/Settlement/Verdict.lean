import Settlement.Documents

/-!
# The full-allocation verdict

Whether the documents of a run came out even.  Open payables are named before open payments, and
a verdict is only turned into an error where the run asks for it.
-/

namespace Settlement

/-- Documents that stayed open. -/
inductive OpenDocuments where
  /-- Payables with something left to pay. -/
  | payables (references : List Reference)
  /-- Payments with something left, while no payable is open. -/
  | payments (references : List Reference)
  deriving DecidableEq, Repr

namespace OpenDocuments

/-- The error for documents that stayed open. -/
def error : OpenDocuments → AllocationError
  | payables references => .payablesNotAllocated references
  | payments references => .paymentsNotAllocated references

/-- The open documents in log records. -/
def describe : OpenDocuments → String
  | payables references =>
      "Payables([" ++ ", ".intercalate (references.map Reference.describe) ++ "])"
  | payments references =>
      "Payments([" ++ ", ".intercalate (references.map Reference.describe) ++ "])"

end OpenDocuments

/-- Whether every document came out even. -/
inductive Verdict where
  | passed
  | failed (documents : OpenDocuments)
  deriving DecidableEq, Repr

namespace Verdict

/-- Every document came out even. -/
def isPassed : Verdict → Bool
  | passed => true
  | failed _ => false

/-- The documents that stayed open. -/
def failure? : Verdict → Option OpenDocuments
  | passed => none
  | failed documents => some documents

/-- The error of a failed verdict. -/
def raise : Verdict → Except AllocationError Unit
  | passed => .ok ()
  | failed documents => .error documents.error

/-- The verdict on documents: open payables first, then open payments. -/
def ofDocuments (documents : Documents) : Verdict :=
  match documents.payables.filter fun payable => !payable.isFullyAllocated with
  | first :: rest => failed (.payables ((first :: rest).map Payable.reference))
  | [] =>
      match documents.payments.filter fun payment => !payment.isFullyAllocated with
      | first :: rest => failed (.payments ((first :: rest).map Payment.reference))
      | [] => passed

end Verdict
end Settlement
