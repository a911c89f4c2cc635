import Settlement.Money
import Settlement.Reference

/-!
# Errors

Why a document, a candidate or a whole run is refused, why a store cannot keep a record, and how
an operation fails in general: by being refused, or by a fault that cuts it short.
-/

namespace Settlement

/-- Why a store did not do what it was asked. -/
inductive StoreError where
  /-- A record does not exist. -/
  | notFound (entity id : String)
  /-- The store itself failed. -/
  | internal (text : String)
  deriving DecidableEq, Repr

namespace StoreError

/-- The text that reports the error. -/
def message : StoreError → String
  | notFound entity id => s!"Not found: {entity} with id {id}"
  | internal text => s!"Internal error: {text}"

/-- A record does not exist. -/
def isNotFound : StoreError → Bool
  | notFound _ _ => true
  | internal _ => false

end StoreError

/-- Why a settlement is refused. -/
inductive AllocationError where
  /-- A run was asked to build a second time. -/
  | alreadyBuilt
  /-- A setting or collaborator is missing. -/
  | configuration (text : String)
  /-- A candidate has one document on both sides. -/
  | sameDocument (reference : Reference)
  /-- A candidate pays without a payment. -/
  | missingPayment (payable : Reference)
  /-- An over- or underpayment is in another currency than its candidate. -/
  | overUnderCurrency (expected actual : Currency)
  /-- A document cannot be made from the given parts. -/
  | invalidDocument (text : String)
  /-- There is nothing to settle. -/
  | noDocuments
  /-- More than one vendor document of a kind takes part. -/
  | multipleVendorDocuments (payments payables : List Reference)
  /-- No header can be drawn up for a pair of documents. -/
  | unsupportedPair (payable : Reference) (payment : Option Reference)
  /-- Payables stay open. -/
  | payablesNotAllocated (references : List Reference)
  /-- Payments stay open. -/
  | paymentsNotAllocated (references : List Reference)
  /-- Amounts do not go together. -/
  | money (error : MoneyError)
  /-- The store did not keep the allocations. -/
  | persistence (error : StoreError)
  deriving DecidableEq, Repr

namespace AllocationError

/-- The text that reports the error. -/
def message : AllocationError → String
  | alreadyBuilt => "Allocation builder was already built"
  | configuration text => s!"Configuration error: {text}"
  | sameDocument reference =>
      s!"Payable and payment shall not be the same document: {reference.display}"
  | missingPayment payable =>
      "Payment document is required when the pay amount is not zero (payable " ++
        payable.display ++ ")"
  | overUnderCurrency expected actual =>
      s!"Over/under amount shall be in {expected.code} but was in {actual.code}"
  | invalidDocument text => s!"Invalid document: {text}"
  | noDocuments => "No payable or payment documents to allocate"
  | multipleVendorDocuments payments payables =>
      "Allocating more than one vendor document of a kind is not allowed (payments: " ++
        Reference.displayAll payments ++ "; payables: " ++ Reference.displayAll payables ++ ")"
  | unsupportedPair payable payment =>
      "Unsupported document pair for allocation: payable " ++ payable.display ++ ", payment " ++
        (payment.map Reference.display).getD "<none>"
  | payablesNotAllocated references =>
      "Payable documents not fully allocated: " ++ Reference.displayAll references
  | paymentsNotAllocated references =>
      "Payment documents not fully allocated: " ++ Reference.displayAll references
  | money error => s!"Money error: {error.message}"
  | persistence error => s!"Failed to persist allocations: {error.message}"

/-- Documents stay open. -/
def isNotFullyAllocated : AllocationError → Bool
  | payablesNotAllocated _ | paymentsNotAllocated _ => true
  | _ => false

end AllocationError

/-- How an operation fails. -/
inductive Failure where
  /-- It is refused with an error. -/
  | refused (error : AllocationError)
  /-- A fault cuts it short. -/
  | broken (fault : Fault)
  deriving DecidableEq, Repr

/-- A computation that a fault may cut short, among those that may also be refused. -/
def orBroken {α : Type} (computed : Except Fault α) : Except Failure α :=
  computed.mapError .broken

/-- A computation that may be refused, among those that a fault may also cut short. -/
def orRefused {α : Type} (computed : Except AllocationError α) : Except Failure α :=
  computed.mapError .refused

/-- The outcome of a change that a fault may cut short: what it leaves behind, and the fault. -/
structure Attempt (α : Type) where
  /-- The object after the change, or as far as the change came. -/
  after : α
  /-- What cut the change short. -/
  fault? : Option Fault

namespace Attempt

/-- A change that came to its end. -/
def complete {α : Type} (after : α) : Attempt α := ⟨after, none⟩

/-- The outcome seen from an object that holds the changed one. -/
def map {α β : Type} (wrap : α → β) (attempt : Attempt α) : Attempt β :=
  ⟨wrap attempt.after, attempt.fault?⟩

/-- A change followed by another, unless a fault has cut the first one short. -/
def andThen {α : Type} (attempt : Attempt α) (next : α → Attempt α) : Attempt α :=
  match attempt.fault? with
  | none => next attempt.after
  | some _ => attempt

/-- A computed value put into an object, or the object as it was. -/
def assign {α β : Type} (object : α) (computed : Except Fault β) (put : β → α) : Attempt α :=
  match computed with
  | .ok value => ⟨put value, none⟩
  | .error fault => ⟨object, some fault⟩

end Attempt
end Settlement
