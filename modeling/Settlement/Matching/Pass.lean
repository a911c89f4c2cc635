import Settlement.Matching.Step

/-!
# Passes of a settlement

A settlement works in passes: credit memos pay invoices, purchase invoices compensate sales
invoices where that is allowed, payments pay payables, money received stands against money paid
out, and at last come the discounts and write-offs that are still left.  Each pass is a list of
steps made from the documents as the passes before it left them.  Before the first pass the
settlement is refused when there are no documents, or too many vendor documents of a kind.
-/

namespace Settlement

/-- The places of a list whose entries have a property, in order. -/
def places {α : Type} (property : α → Bool) (entries : List α) : List Nat :=
  (List.range entries.length).filter fun index => entries[index]?.any property

namespace Step

/-- Every payable with every document that may pay it, in order, and after the last one what is
left of the payable.  Without anything that may pay there are no steps at all, so leftovers stay
too. -/
def pairAll (kind : CandidateKind) (payables : List Nat) (means : List Means) : List Step :=
  if means.isEmpty then
    []
  else
    payables.flatMap fun payable => means.map (pair kind payable) ++ [leftover payable]

/-- Every payment received with every payment made. -/
def reverseAll (inbound outbound : List Nat) : List Step :=
  inbound.flatMap fun received => outbound.map fun made => reverse received made

end Step

namespace Pass

/-- The steps of a pass over documents. -/
def steps (documents : Documents) : Pass → List Step
  | creditMemos =>
      Step.pairAll .invoiceToCreditMemo
        (places (fun payable => !payable.creditMemo) documents.payables)
        ((places Payable.creditMemo documents.payables).map .creditMemo)
  | compensation =>
      Step.pairAll .salesInvoiceToPurchaseInvoice
        (places (fun payable => !payable.creditMemo && payable.side.isSales)
          documents.payables)
        ((places (fun payable => !payable.creditMemo && payable.side.isPurchase)
          documents.payables).map .purchaseInvoice)
  | payments =>
      Step.pairAll .invoiceToPayment (List.range documents.payables.length) documents.means
  | reversals =>
      Step.reverseAll
        (places (fun payment => !payment.isFullyAllocated && payment.remaining.isPositive)
          documents.payments)
        (places (fun payment => !payment.isFullyAllocated && !payment.remaining.isPositive)
          documents.payments)
  | remainders => (List.range documents.payables.length).map .remainder

/-- Whether a pass reports that it is through: one without reversals to try says nothing. -/
def reports (steps : List Step) : Pass → Bool
  | reversals => !steps.isEmpty
  | _ => true

/-- Runs one pass and reports how many candidates it made. -/
def run (policy : LeftoverPolicy) (pass : Pass) (progress : Progress) : Advance :=
  let steps := pass.steps progress.documents
  Progress.proceed (Step.runAll policy steps progress) fun after =>
    if pass.reports steps then
      (after.report (.passed pass (after.postings.length - progress.postings.length)), none)
    else
      (after, none)

/-- Runs passes in order, up to the first that fails. -/
def runAll (policy : LeftoverPolicy) : List Pass → Progress → Advance
  | [], progress => (progress, none)
  | pass :: rest, progress => Progress.proceed (pass.run policy progress) (runAll policy rest)

end Pass

namespace Settings

/-- The passes that settings ask for. -/
def passes (settings : Settings) : List Pass :=
  [.creditMemos] ++ (if settings.compensation then [.compensation] else []) ++
    [.payments, .reversals, .remainders]

end Settings

namespace Documents

/-- The payments made. -/
def outboundPayments (documents : Documents) : List Payment :=
  documents.payments.filter fun payment => payment.direction.isOutbound

/-- The vendor's credit memos. -/
def vendorCreditMemos (documents : Documents) : List Payable :=
  documents.payables.filter fun payable => payable.side.isPurchase && payable.creditMemo

/-- The vendor's other documents. -/
def vendorPayables (documents : Documents) : List Payable :=
  documents.payables.filter fun payable => payable.side.isPurchase && !payable.creditMemo

/-- Refuses more than one vendor document of a kind. -/
def checkVendorDocuments (documents : Documents) : Except AllocationError Unit :=
  if 1 < documents.outboundPayments.length ∨ 1 < documents.vendorPayables.length ∨
      1 < documents.vendorCreditMemos.length then
    .error (.multipleVendorDocuments
      (documents.outboundPayments.map Payment.reference ++
        documents.vendorCreditMemos.map Payable.reference)
      (documents.vendorPayables.map Payable.reference))
  else
    .ok ()

/-- Refuses documents that must not be settled under the settings. -/
def check (settings : Settings) (documents : Documents) : Except AllocationError Unit :=
  if documents.isEmpty then
    .error .noDocuments
  else if settings.onlyOneVendorDocument then
    documents.checkVendorDocuments
  else
    .ok ()

/-- Settles documents under settings, as far as that goes. -/
def settle (settings : Settings) (documents : Documents) : Advance :=
  match documents.check settings with
  | .error error => ({ documents }, some (.refused error))
  | .ok () => Pass.runAll settings.leftover settings.passes { documents }

end Documents
end Settlement
