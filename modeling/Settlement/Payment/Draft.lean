import Settlement.Payable.Draft
import Settlement.Payment.Basic

/-!
# Drafts of payments

A payment is made from a draft whose parts are filled in one by one.  The draft gives its amounts
without a sign; completing it signs them by the direction of the payment.
-/

namespace Settlement

/-- A payment whose parts are still being filled in. -/
structure Payment.Draft where
  /-- The organization, which is required. -/
  organization : Option OrganizationId := none
  /-- The other party. -/
  partner : Option PartyId := none
  /-- The number printed on the document. -/
  number : String := ""
  /-- Whether the money is received or paid out, which is required. -/
  direction : Option Direction := none
  /-- The record of the payment, which is required. -/
  id : Option PaymentId := none
  /-- The unsigned open amount; without one it is the amount to allocate. -/
  openAmount : Option Money := none
  /-- The unsigned amount to allocate, which is required. -/
  amount : Option Money := none
  deriving DecidableEq, Repr

namespace Payment

/-- An unsigned amount with the sign of a direction. -/
def signed : Direction → Money → Money
  | .inbound, amount => amount
  | .outbound, amount => amount.neg

namespace Draft

/-- Makes the payment, with all of its amount still to allocate. -/
def complete (draft : Draft) : Except Failure Payment := do
  let organization ← required draft.organization "org_id"
  let direction ← required draft.direction "direction"
  let id ← required draft.id "payment_id"
  let amount ← required draft.amount "amount"
  let openAmount := draft.openAmount.getD amount
  if amount.isNegative || openAmount.isNegative then
    throw (.refused (.invalidDocument
      s!"payment {id.display} amounts must be given unsigned"))
  if openAmount.currency ≠ amount.currency then
    throw (.refused (.invalidDocument
      ("open amount of payment " ++ id.display ++ " is in " ++ openAmount.currency.code ++
        " but amount is in " ++ amount.currency.code)))
  let initial := signed direction amount
  return {
    organization
    partner := draft.partner
    number := draft.number
    direction
    id
    openAmount := signed direction openAmount
    initial
    remaining := initial
    allocated := Money.zero initial.currency }

end Draft
end Payment
end Settlement
