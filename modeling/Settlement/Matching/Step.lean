import Settlement.Event
import Settlement.Settings.Basic

/-!
# Steps of a settlement

A settlement is a list of steps over the documents.  A step matches a payable with a document
that acts as a payment, deals with what is left of a payable, sets a payment received against a
payment made, or grants the discounts and write-offs that a payable still carries.  Whatever a
step settles is proposed as a candidate first and then recorded on the documents of both sides;
a step with nothing to settle changes nothing.
-/

namespace Settlement

namespace PaymentView

/-- A document fits a payable when it may pay it and both started on the same side of zero. -/
def fits (view : PaymentView) (payable : Payable) : Bool :=
  view.canPay payable && payable.initial.pay.isNegative == view.initial.isNegative

/-- How much of what remains of a payable a document can take: no more than either side has
left, together with all of the payable's discount and write-off. -/
def share (view : PaymentView) (payable : Payable) : Except Fault Amounts :=
  match payable.remaining.pay.isNegative, view.remaining.isNegative with
  | false, false => do
      payable.remaining.withPay (← payable.remaining.pay.min view.remaining)
  | true, true => do
      payable.remaining.withPay (← payable.remaining.pay.max view.remaining)
  | _, _ => .ok payable.remaining.withZeroPay

end PaymentView

/-- A candidate, the event that announces it, and how the documents record it. -/
structure Proposal where
  /-- What is settled. -/
  candidate : Candidate
  /-- What is reported before it is recorded. -/
  event : Event
  /-- How the documents record it. -/
  record : Documents → Attempt Documents

namespace Documents

/-- Matches a payable with a document that acts as a payment, where both are open and fit. -/
def pairing (documents : Documents) (kind : CandidateKind) (index : Nat) (means : Means) :
    Except Failure (Option Proposal) := do
  let payable ← orBroken (documents.payable index)
  if payable.isFullyAllocated then
    return none
  let view ← orBroken (documents.view means)
  if view.isFullyAllocated || !view.fits payable then
    return none
  let amounts ← orBroken (view.share payable)
  let payableOverUnder ← orBroken (payable.projected amounts)
  let paymentOverUnder ← orBroken (view.projected amounts.pay)
  let candidate ← orRefused (Candidate.Draft.complete {
    kind
    organization := some payable.organization
    partner := payable.partner
    payable := some payable.reference
    payment := some view.reference
    amounts := some amounts
    payableOverUnder := some payableOverUnder
    paymentOverUnder := some paymentOverUnder })
  return some {
    candidate
    event := .matched candidate payable.number view
    record := fun documents =>
      (documents.allocate index amounts).andThen fun documents =>
        documents.pay means amounts.pay }

/-- Settles amounts of a payable without a payment. -/
def concession (documents : Documents) (index : Nat) (amounts : Amounts) :
    Except Failure Proposal := do
  let payable ← orBroken (documents.payable index)
  let payableOverUnder ← orBroken (payable.projected amounts)
  let candidate ← orRefused (Candidate.Draft.complete {
    kind := .invoiceDiscountOrWriteOff
    organization := some payable.organization
    partner := payable.partner
    payable := some payable.reference
    amounts := some amounts
    payableOverUnder := some payableOverUnder })
  return {
    candidate
    event := .proposed candidate
    record := fun documents => documents.allocate index amounts }

/-- Settles the discount and write-off that a payable still carries, whatever is left to pay. -/
def remainder (documents : Documents) (index : Nat) : Except Failure (Option Proposal) := do
  let payable ← orBroken (documents.payable index)
  let amounts := payable.remaining.withZeroPay
  if amounts.isZero then
    return none
  return some (← documents.concession index amounts)

/-- Sets a payment received against a payment made, where both are open and in one currency.
Both sides count below zero here, so the smaller magnitude is the larger amount. -/
def reversal (documents : Documents) (inbound outbound : Nat) :
    Except Failure (Option Proposal) := do
  let received ← orBroken (documents.payment inbound)
  let made ← orBroken (documents.payment outbound)
  if received.isFullyAllocated then
    return none
  if made.isFullyAllocated || made.currency != received.currency then
    return none
  let amount ← orBroken (received.remaining.neg.max made.remaining)
  let payableOverUnder ← orBroken (made.projected amount)
  let paymentOverUnder ← orBroken (received.projected amount.neg)
  let candidate ← orRefused (Candidate.Draft.complete {
    kind := .inboundPaymentToOutboundPayment
    organization := some made.organization
    partner := made.partner
    payable := some made.reference
    payment := some received.reference
    amounts := some (Amounts.ofPay amount)
    payableOverUnder := some payableOverUnder
    paymentOverUnder := some paymentOverUnder.neg })
  return some {
    candidate
    event := .proposed candidate
    record := fun documents =>
      (documents.changePayment outbound fun payment => payment.allocate amount).andThen
        fun documents =>
          documents.changePayment inbound fun payment => payment.allocate amount.neg }

end Documents

/-- A recorded allocation: the candidate, and the documents once both sides had recorded it. -/
structure Posting where
  /-- What was settled. -/
  candidate : Candidate
  /-- The documents after it. -/
  documents : Documents
  deriving DecidableEq, Repr

/-- How far a settlement has come. -/
structure Progress where
  /-- The documents as they are now. -/
  documents : Documents
  /-- The recorded allocations, in order. -/
  postings : List Posting := []
  /-- What has been reported, in order. -/
  events : List Event := []
  deriving DecidableEq, Repr

/-- How far a settlement came, and the failure that stopped it there. -/
abbrev Advance := Progress × Option Failure

namespace Progress

/-- The candidates of the recorded allocations. -/
def candidates (progress : Progress) : List Candidate := progress.postings.map (·.candidate)

/-- Reports an event. -/
def report (progress : Progress) (event : Event) : Progress :=
  { progress with events := progress.events ++ [event] }

/-- Changes the documents, and stops where a fault cuts the change short. -/
def change (progress : Progress) (attempt : Attempt Documents) : Advance :=
  ({ progress with documents := attempt.after }, attempt.fault?.map .broken)

/-- Goes on unless a failure has stopped the settlement. -/
def proceed (advance : Advance) (next : Progress → Advance) : Advance :=
  match advance with
  | (progress, none) => next progress
  | (progress, some failure) => (progress, some failure)

/-- Announces a proposal, records it on the documents and posts it. -/
def book (progress : Progress) (proposal : Proposal) : Advance :=
  proceed ((progress.report proposal.event).change (proposal.record progress.documents))
    fun progress =>
      ({ progress with
        postings := progress.postings ++ [⟨proposal.candidate, progress.documents⟩] }, none)

/-- Books what a step proposes, if anything. -/
def settle (progress : Progress) (proposed : Except Failure (Option Proposal)) : Advance :=
  match proposed with
  | .ok (some proposal) => progress.book proposal
  | .ok none => (progress, none)
  | .error failure => (progress, some failure)

/-- Moves what is left to pay of a payable as the policy says. -/
def moved (policy : LeftoverPolicy) (payable : Payable) : Option (Attempt Payable) :=
  match policy with
  | .leaveOpen => none
  | .discount => some payable.remainderToDiscount
  | .writeOff => some payable.remainderToWriteOff

/-- Deals with a payable that is still open as the policy says: what is left to pay is moved to
another part and settled there without a payment. -/
def settleLeftover (policy : LeftoverPolicy) (index : Nat) (progress : Progress) : Advance :=
  match progress.documents.payable index with
  | .error fault => (progress, some (.broken fault))
  | .ok payable =>
      if payable.isFullyAllocated then
        (progress, none)
      else
        match moved policy payable with
        | none => (progress, none)
        | some move =>
            proceed (progress.change (progress.documents.changePayable index fun _ => move))
              fun progress => progress.settle
                (some <$> progress.documents.concession index move.after.remaining)

end Progress

/-- A step of a settlement; documents are named by their places. -/
inductive Step where
  /-- Match a payable with a document that acts as a payment. -/
  | pair (kind : CandidateKind) (payable : Nat) (means : Means)
  /-- Deal with what is left to pay of a payable. -/
  | leftover (payable : Nat)
  /-- Set a payment received against a payment made. -/
  | reverse (inbound outbound : Nat)
  /-- Settle the discount and write-off that a payable still carries. -/
  | remainder (payable : Nat)
  deriving DecidableEq, Repr

namespace Step

/-- Takes one step. -/
def run (policy : LeftoverPolicy) (progress : Progress) : Step → Advance
  | pair kind payable means => progress.settle (progress.documents.pairing kind payable means)
  | leftover payable => progress.settleLeftover policy payable
  | reverse inbound outbound => progress.settle (progress.documents.reversal inbound outbound)
  | remainder payable => progress.settle (progress.documents.remainder payable)

/-- Takes steps in order, up to the first that fails. -/
def runAll (policy : LeftoverPolicy) : List Step → Progress → Advance
  | [], progress => (progress, none)
  | step :: rest, progress => Progress.proceed (step.run policy progress) (runAll policy rest)

end Step
end Settlement
