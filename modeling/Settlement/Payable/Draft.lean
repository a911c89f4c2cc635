import Settlement.Payable.Basic

/-!
# Drafts of payables

A payable is made from a draft whose parts are filled in one by one.  Completing the draft checks
that nothing required is missing, that the document is kept in the table of its kind, and that
the open amount is in the currency of the amounts.
-/

namespace Settlement

/-- A payable whose parts are still being filled in. -/
structure Payable.Draft where
  /-- An invoice, unless said otherwise. -/
  kind : PayableKind := .invoice
  /-- The organization, which is required. -/
  organization : Option OrganizationId := none
  /-- The other party. -/
  partner : Option PartyId := none
  /-- The number printed on the document. -/
  number : String := ""
  /-- The side of the trade, which is required. -/
  side : Option TradeSide := none
  /-- Whether the document is a credit memo. -/
  creditMemo : Bool := false
  /-- Where the document is kept, which is required. -/
  reference : Option Reference := none
  /-- The open amount; without one it is the total of the amounts. -/
  openAmount : Option Money := none
  /-- The amounts to allocate, which are required. -/
  amounts : Option Amounts := none
  deriving DecidableEq, Repr

/-- A required part of a document draft, or the error that names it. -/
def required {α : Type} (part : Option α) (name : String) : Except Failure α :=
  match part with
  | some value => .ok value
  | none => .error (.refused (.invalidDocument s!"missing required field: {name}"))

namespace Payable.Draft

/-- The invoice type sets kind, side and credit memo mark together. -/
def withInvoiceType (draft : Draft) (type : InvoiceType) : Draft :=
  { draft with kind := .invoice, side := some type.side, creditMemo := type.isCreditMemo }

/-- Checks that a document is kept in the table of its kind, and that no order is a credit
memo. -/
def checkReference (kind : PayableKind) (creditMemo : Bool) (reference : Reference) :
    Except Failure Unit :=
  match kind, reference with
  | .invoice, .invoice _ => .ok ()
  | .prepayOrder, .order _ =>
      if creditMemo then
        .error (.refused (.invalidDocument
          s!"prepay order {reference.display} cannot be a credit memo"))
      else
        .ok ()
  | kind, reference =>
      .error (.refused (.invalidDocument
        (kind.name ++ " document cannot reference " ++ reference.table ++ " record " ++
          reference.display)))

/-- The open amount of a draft, which is the total of its amounts where none is given. -/
def resolveOpen (given : Option Money) (amounts : Amounts) : Except Failure Money :=
  match given with
  | some amount => .ok amount
  | none => orBroken amounts.total

/-- Makes the payable, with all of its amounts still to allocate. -/
def complete (draft : Draft) : Except Failure Payable := do
  let organization ← required draft.organization "org_id"
  let side ← required draft.side "so_trx"
  let reference ← required draft.reference "reference"
  let amounts ← required draft.amounts "amounts"
  checkReference draft.kind draft.creditMemo reference
  let openAmount ← resolveOpen draft.openAmount amounts
  if openAmount.currency ≠ amounts.currency then
    throw (.refused (.invalidDocument
      ("open amount of " ++ reference.display ++ " is in " ++ openAmount.currency.code ++
        " but amounts are in " ++ amounts.currency.code)))
  return {
    kind := draft.kind
    organization
    partner := draft.partner
    number := draft.number
    side
    creditMemo := draft.creditMemo
    reference
    openAmount
    initial := amounts
    remaining := amounts
    allocated := Amounts.zero amounts.currency }

end Payable.Draft
end Settlement
