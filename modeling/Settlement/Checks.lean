import Settlement.Candidate
import Settlement.Payment.Basic

/-!
# Checks on documents and candidates

What must hold of candidates and balances, decided by computation.  A check whose arithmetic is
cut short by a fault does not hold.
-/

namespace Settlement

namespace Money

/-- Whether a computed amount has a value; a fault has none. -/
def agrees (computed : Except Fault Money) (expected : Money) : Bool :=
  match computed with
  | .ok actual => decide (expected.SameValue actual)
  | .error _ => false

end Money

namespace Payable

/-- The total that remains when the allocated total is taken off the initial one. -/
def expectedRemainder (payable : Payable) : Except Fault Money := do
  (← payable.initial.total).sub (← payable.allocated.total)

/-- What remains is what the document started with, less what has been allocated, in total. -/
def isBalanced (payable : Payable) : Bool :=
  match payable.remaining.total with
  | .ok remaining => Money.agrees payable.expectedRemainder remaining
  | .error _ => false

/-- What is left to pay has a value. -/
def remainsToPay (payable : Payable) (expected : Decimal) : Bool :=
  decide (payable.remaining.pay.amount.SameValue expected)

end Payable

namespace Payment

/-- What remains is what the payment started with, less what has been allocated. -/
def isBalanced (payment : Payment) : Bool :=
  Money.agrees (payment.initial.sub payment.allocated) payment.remaining

/-- What is left has a value. -/
def remains (payment : Payment) (expected : Decimal) : Bool :=
  decide (payment.remaining.amount.SameValue expected)

end Payment

namespace Candidate

/-- A candidate pays only with a payment, has different documents on its sides, and keeps one
currency. -/
def isSound (candidate : Candidate) : Bool :=
  (candidate.amounts.pay.isZero || candidate.payment.isSome) &&
    some candidate.payable != candidate.payment &&
    candidate.payableOverUnder.currency == candidate.currency &&
    candidate.paymentOverUnder.currency == candidate.currency

/-- What a candidate applies to a document: its pay amount to the payable, and the opposite to
the document that pays. -/
def appliedTo (reference : Reference) (candidate : Candidate) : Decimal :=
  if candidate.payable = reference then
    candidate.amounts.pay.amount
  else if candidate.payment = some reference then
    candidate.amounts.pay.amount.neg
  else
    Decimal.zero

/-- What candidates apply to a document together. -/
def applied (candidates : List Candidate) (reference : Reference) : Except Fault Decimal :=
  (candidates.map (appliedTo reference)).foldlM (fun sum amount =>
    match sum.sum? amount with
    | some sum => .ok sum
    | none => .error .sumOverflow) Decimal.zero

end Candidate
end Settlement
