import Settlement.Payable.Draft

/-!
# Candidates

A candidate proposes one allocation: amounts that settle a payable, mostly against a payment.  It
is made from a draft, and completing the draft checks that the two sides are different documents,
that nothing is paid without a payment and that all currencies agree.
-/

namespace Settlement

/-- A proposed allocation between a payable and, where something is paid, a payment. -/
structure Candidate where
  /-- The pass that proposes it. -/
  kind : CandidateKind
  /-- The organization of the payable. -/
  organization : OrganizationId
  /-- The other party of the payable. -/
  partner : Option PartyId
  /-- What is settled. -/
  payable : Reference
  /-- What it is settled with. -/
  payment : Option Reference
  /-- What is settled in which way. -/
  amounts : Amounts
  /-- What stays open of the payable. -/
  payableOverUnder : Money
  /-- What stays open of the payment. -/
  paymentOverUnder : Money
  deriving DecidableEq, Repr

namespace Candidate

/-- The currency of a candidate is that of its amounts. -/
def currency (candidate : Candidate) : Currency := candidate.amounts.currency

/-- The candidate in one line. -/
def display (candidate : Candidate) : String :=
  let sides :=
    match candidate.payment with
    | some payment => candidate.payable.display ++ " <- " ++ payment.display
    | none => candidate.payable.display
  word candidate.kind ++ " " ++ sides ++ " (" ++ candidate.amounts.display ++ ")"

/-- The same proposal with the same money in every amount. -/
def SameValue (left right : Candidate) : Prop :=
  left.kind = right.kind ∧ left.organization = right.organization ∧
    left.partner = right.partner ∧ left.payable = right.payable ∧ left.payment = right.payment ∧
    left.amounts.SameValue right.amounts ∧
    left.payableOverUnder.SameValue right.payableOverUnder ∧
    left.paymentOverUnder.SameValue right.paymentOverUnder

instance (left right : Candidate) : Decidable (SameValue left right) :=
  inferInstanceAs (Decidable (_ ∧ _ ∧ _ ∧ _ ∧ _ ∧ _ ∧ _ ∧ _))

/-- A candidate whose parts are still being filled in. -/
structure Draft where
  /-- The pass that proposes it. -/
  kind : CandidateKind
  /-- The organization, which is required. -/
  organization : Option OrganizationId := none
  /-- The other party. -/
  partner : Option PartyId := none
  /-- What is settled, which is required. -/
  payable : Option Reference := none
  /-- What it is settled with. -/
  payment : Option Reference := none
  /-- What is settled in which way, which is required. -/
  amounts : Option Amounts := none
  /-- What stays open of the payable; nothing unless said. -/
  payableOverUnder : Option Money := none
  /-- What stays open of the payment; nothing unless said. -/
  paymentOverUnder : Option Money := none
  deriving DecidableEq, Repr

namespace Draft

/-- A required part of a candidate, or the error that names it. -/
def required {α : Type} (part : Option α) (name : String) : Except AllocationError α :=
  match part with
  | some value => .ok value
  | none => .error (.invalidDocument s!"allocation candidate requires {name}")

/-- The two sides are different documents, and nothing is paid without a payment. -/
def checkSides (payable : Reference) (payment : Option Reference) (amounts : Amounts) :
    Except AllocationError Unit :=
  match payment with
  | some payment => if payment = payable then .error (.sameDocument payable) else .ok ()
  | none => if amounts.pay.isZero then .ok () else .error (.missingPayment payable)

/-- An over- or underpayment in the currency of the candidate; nothing unless given. -/
def checkOverUnder (currency : Currency) (given : Option Money) : Except AllocationError Money :=
  let overUnder := given.getD (Money.zero currency)
  if overUnder.currency = currency then
    .ok overUnder
  else
    .error (.overUnderCurrency currency overUnder.currency)

/-- Makes the candidate. -/
def complete (draft : Draft) : Except AllocationError Candidate := do
  let organization ← required draft.organization "org_id"
  let payable ← required draft.payable "a payable"
  let amounts ← required draft.amounts "amounts"
  checkSides payable draft.payment amounts
  let payableOverUnder ← checkOverUnder amounts.currency draft.payableOverUnder
  let paymentOverUnder ← checkOverUnder amounts.currency draft.paymentOverUnder
  return {
    kind := draft.kind
    organization
    partner := draft.partner
    payable
    payment := draft.payment
    amounts
    payableOverUnder
    paymentOverUnder }

end Draft
end Candidate
end Settlement
