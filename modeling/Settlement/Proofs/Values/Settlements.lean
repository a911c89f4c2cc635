import Settlement.Proofs.OpenDocuments
import Settlement.Proofs.Values.Documents

/-!
# Settlements of documents of one value

Every step proposes, records and refuses alike on documents that differ in how their amounts are
written, so whole settlements of them agree step by step.
-/

namespace Settlement

/-! ## Candidates -/

namespace Candidate.Draft

/-- The same parts of a candidate, with the same money in every amount. -/
structure Agrees (left right : Draft) : Prop where
  kind_eq : left.kind = right.kind
  organization_eq : left.organization = right.organization
  partner_eq : left.partner = right.partner
  payable_eq : left.payable = right.payable
  payment_eq : left.payment = right.payment
  amounts : Option.Rel Amounts.SameValue left.amounts right.amounts
  payableOverUnder : Option.Rel Money.SameValue left.payableOverUnder right.payableOverUnder
  paymentOverUnder : Option.Rel Money.SameValue left.paymentOverUnder right.paymentOverUnder

theorem required_agrees {α : Type} {related : α → α → Prop} {part part' : Option α}
    (same : Option.Rel related part part') (name : String) :
    SameOutcome related (required part name) (required part' name) := by
  cases same with
  | none => exact .failed _
  | some same => exact .done same

theorem checkSides_eq {amounts amounts' : Amounts} (same : amounts.SameValue amounts')
    (payable : Reference) (payment : Option Reference) :
    checkSides payable payment amounts = checkSides payable payment amounts' := by
  unfold checkSides
  rw [same.1.isZero_eq]

theorem checkOverUnder_agrees {currency currency' : Currency} (currency_eq : currency = currency')
    {given given' : Option Money} (same : Option.Rel Money.SameValue given given') :
    SameOutcome Money.SameValue (checkOverUnder currency given)
      (checkOverUnder currency' given') := by
  subst currency_eq
  have overUnder_same : (given.getD (Money.zero currency)).SameValue
      (given'.getD (Money.zero currency)) := by
    cases same with
    | none => exact .refl _
    | some same => exact same
  unfold checkOverUnder
  dsimp only
  rw [overUnder_same.2]
  split
  · exact .done overUnder_same
  · exact .failed _

theorem Agrees.complete {draft draft' : Draft} (same : draft.Agrees draft') :
    SameOutcome SameValue draft.complete draft'.complete := by
  unfold Draft.complete
  rw [same.organization_eq, same.payable_eq, same.payment_eq]
  apply (SameOutcome.refl _).bind
  rintro organization _ rfl
  apply (SameOutcome.refl _).bind
  rintro payable _ rfl
  apply (required_agrees same.amounts _).bind
  intro amounts amounts' amounts_same
  rw [checkSides_eq amounts_same]
  apply (SameOutcome.refl _).bind
  rintro _ _ -
  apply (checkOverUnder_agrees amounts_same.currency_eq same.payableOverUnder).bind
  intro payableOverUnder payableOverUnder' payable_same
  apply (checkOverUnder_agrees amounts_same.currency_eq same.paymentOverUnder).bind
  intro paymentOverUnder paymentOverUnder' payment_same
  exact .done ⟨same.kind_eq, rfl, same.partner_eq, rfl, rfl, amounts_same, payable_same,
    payment_same⟩

end Candidate.Draft

/-! ## Proposals -/

/-- The same candidate, recorded alike on documents that agree. -/
structure Proposal.Agrees (left right : Proposal) : Prop where
  candidate : left.candidate.SameValue right.candidate
  record : ∀ ⦃documents documents' : Documents⦄, documents.Agrees documents' →
    (left.record documents).Same Documents.Agrees (right.record documents')

namespace Documents

variable {documents documents' : Documents}

theorem Agrees.pairing (same : documents.Agrees documents') (kind : CandidateKind) (index : Nat)
    (means : Means) :
    SameOutcome (Option.Rel Proposal.Agrees) (documents.pairing kind index means)
      (documents'.pairing kind index means) := by
  apply (entry_agrees same.payables index).orBroken.bind
  intro payable payable' payable_same
  rw [payable_same.isFullyAllocated_eq]
  split
  · exact .done .none
  apply (same.view means).orBroken.bind
  intro view view' view_same
  rw [view_same.isFullyAllocated_eq, view_same.fits_eq payable_same]
  split
  · exact .done .none
  apply (view_same.share payable_same).orBroken.bind
  intro amounts amounts' amounts_same
  apply (payable_same.projected amounts_same).orBroken.bind
  intro payableOverUnder payableOverUnder' payable_left
  apply (view_same.projected amounts_same.1).orBroken.bind
  intro paymentOverUnder paymentOverUnder' payment_left
  apply (Candidate.Draft.Agrees.complete _).orRefused.bind
  · intro candidate candidate' candidate_same
    refine .done (.some ⟨candidate_same, fun before before' before_same => ?_⟩)
    dsimp only
    refine (before_same.allocate index amounts_same).andThen ?_
    exact fun _ _ allocated_same => allocated_same.pay means amounts_same.1
  · exact
      { kind_eq := rfl
        organization_eq := congrArg some payable_same.organization_eq
        partner_eq := payable_same.partner_eq
        payable_eq := congrArg some payable_same.reference_eq
        payment_eq := congrArg some view_same.reference_eq
        amounts := .some amounts_same
        payableOverUnder := .some payable_left
        paymentOverUnder := .some payment_left }

theorem Agrees.concession (same : documents.Agrees documents') (index : Nat)
    {amounts amounts' : Amounts} (amounts_same : amounts.SameValue amounts') :
    SameOutcome Proposal.Agrees (documents.concession index amounts)
      (documents'.concession index amounts') := by
  apply (entry_agrees same.payables index).orBroken.bind
  intro payable payable' payable_same
  apply (payable_same.projected amounts_same).orBroken.bind
  intro payableOverUnder payableOverUnder' payable_left
  apply (Candidate.Draft.Agrees.complete _).orRefused.bind
  · intro candidate candidate' candidate_same
    exact .done ⟨candidate_same, fun _ _ before_same => before_same.allocate index amounts_same⟩
  · exact
      { kind_eq := rfl
        organization_eq := congrArg some payable_same.organization_eq
        partner_eq := payable_same.partner_eq
        payable_eq := congrArg some payable_same.reference_eq
        payment_eq := rfl
        amounts := .some amounts_same
        payableOverUnder := .some payable_left
        paymentOverUnder := .none }

theorem Agrees.remainder (same : documents.Agrees documents') (index : Nat) :
    SameOutcome (Option.Rel Proposal.Agrees) (documents.remainder index)
      (documents'.remainder index) := by
  apply (entry_agrees same.payables index).orBroken.bind
  intro payable payable' payable_same
  have amounts_same := payable_same.remaining.withZeroPay
  dsimp only
  rw [amounts_same.isZero_eq]
  split
  · exact .done .none
  apply (same.concession index amounts_same).bind
  exact fun _ _ proposal_same => .done (.some proposal_same)

theorem Agrees.reversal (same : documents.Agrees documents') (inbound outbound : Nat) :
    SameOutcome (Option.Rel Proposal.Agrees) (documents.reversal inbound outbound)
      (documents'.reversal inbound outbound) := by
  apply (entry_agrees same.payments inbound).orBroken.bind
  intro received received' received_same
  apply (entry_agrees same.payments outbound).orBroken.bind
  intro made made' made_same
  rw [received_same.isFullyAllocated_eq]
  split
  · exact .done .none
  rw [made_same.isFullyAllocated_eq, made_same.currency_eq, received_same.currency_eq]
  split
  · exact .done .none
  apply (Money.respects_max received_same.remaining.neg made_same.remaining).orBroken.bind
  intro amount amount' amount_same
  apply (made_same.projected amount_same).orBroken.bind
  intro payableOverUnder payableOverUnder' payable_left
  apply (received_same.projected amount_same.neg).orBroken.bind
  intro paymentOverUnder paymentOverUnder' payment_left
  apply (Candidate.Draft.Agrees.complete _).orRefused.bind
  · intro candidate candidate' candidate_same
    refine .done (.some ⟨candidate_same, fun before before' before_same => ?_⟩)
    dsimp only
    refine (before_same.changePayment outbound fun _ _ payment_same =>
      payment_same.allocate amount_same).andThen ?_
    exact fun _ _ allocated_same => allocated_same.changePayment inbound fun _ _ payment_same =>
      payment_same.allocate amount_same.neg
  · exact
      { kind_eq := rfl
        organization_eq := congrArg some made_same.organization_eq
        partner_eq := made_same.partner_eq
        payable_eq := congrArg some made_same.reference_eq
        payment_eq := congrArg some received_same.reference_eq
        amounts := .some (.ofPay amount_same)
        payableOverUnder := .some payable_left
        paymentOverUnder := .some payment_left.neg }

end Documents

/-! ## Steps -/

namespace Progress

/-- The same has been settled, and the documents are the same. -/
structure Agrees (left right : Progress) : Prop where
  documents : left.documents.Agrees right.documents
  candidates : List.Forall₂ Candidate.SameValue left.candidates right.candidates

variable {progress progress' : Progress}

theorem Agrees.going (same : progress.Agrees progress') :
    SameAdvance Agrees (progress, none) (progress', none) := ⟨same, rfl⟩

theorem Agrees.report (same : progress.Agrees progress') (event event' : Event) :
    (progress.report event).Agrees (progress'.report event') :=
  ⟨same.documents, same.candidates⟩

theorem Agrees.change (same : progress.Agrees progress') {attempt attempt' : Attempt Documents}
    (attempt_same : attempt.Same Documents.Agrees attempt') :
    SameAdvance Agrees (progress.change attempt) (progress'.change attempt') :=
  ⟨⟨attempt_same.after, same.candidates⟩,
    congrArg (Option.map Failure.broken) attempt_same.fault?_eq⟩

theorem Agrees.book (same : progress.Agrees progress') {proposal proposal' : Proposal}
    (proposal_same : proposal.Agrees proposal') :
    SameAdvance Agrees (progress.book proposal) (progress'.book proposal') := by
  apply ((same.report _ _).change (proposal_same.record same.documents)).proceed
  intro recorded recorded' recorded_same
  refine ⟨⟨recorded_same.documents, ?_⟩, rfl⟩
  rw [Progress.candidates, Progress.candidates, List.map_append, List.map_append]
  exact List.rel_append recorded_same.candidates (.cons proposal_same.candidate .nil)

theorem Agrees.settle (same : progress.Agrees progress')
    {proposed proposed' : Except Failure (Option Proposal)}
    (proposed_same : SameOutcome (Option.Rel Proposal.Agrees) proposed proposed') :
    SameAdvance Agrees (progress.settle proposed) (progress'.settle proposed') := by
  cases proposed_same with
  | failed failure => exact ⟨same, rfl⟩
  | done proposal_same =>
      cases proposal_same with
      | none => exact same.going
      | some proposal_same => exact same.book proposal_same

theorem Agrees.settleLeftover (same : progress.Agrees progress') (policy : LeftoverPolicy)
    (index : Nat) :
    SameAdvance Agrees (progress.settleLeftover policy index)
      (progress'.settleLeftover policy index) := by
  have found := Documents.entry_agrees same.documents.payables index
  unfold Progress.settleLeftover Documents.payable
  generalize Documents.entry progress.documents.payables index = payable at found ⊢
  generalize Documents.entry progress'.documents.payables index = payable' at found ⊢
  cases found with
  | failed fault => exact ⟨same, rfl⟩
  | @done payable payable' payable_same =>
      have move_same := payable_same.moved policy
      dsimp only
      rw [payable_same.isFullyAllocated_eq]
      split
      · exact same.going
      generalize moved policy payable = move? at move_same ⊢
      generalize moved policy payable' = move?' at move_same ⊢
      cases move_same with
      | none => exact same.going
      | some move_same =>
          apply (same.change (same.documents.changePayable index fun _ _ _ => move_same)).proceed
          intro changed changed' changed_same
          apply changed_same.settle
          apply (changed_same.documents.concession index move_same.after.remaining).map
          exact fun _ _ => .some

end Progress

open Progress

variable {progress progress' : Progress}

theorem Step.run_agrees (policy : LeftoverPolicy) (same : progress.Agrees progress')
    (step : Step) : SameAdvance Agrees (step.run policy progress) (step.run policy progress') := by
  cases step with
  | pair kind payable means => exact same.settle (same.documents.pairing kind payable means)
  | leftover payable => exact same.settleLeftover policy payable
  | reverse inbound outbound => exact same.settle (same.documents.reversal inbound outbound)
  | remainder payable => exact same.settle (same.documents.remainder payable)

theorem Step.runAll_agrees (policy : LeftoverPolicy) (same : progress.Agrees progress')
    (steps : List Step) :
    SameAdvance Agrees (runAll policy steps progress) (runAll policy steps progress') := by
  induction steps generalizing progress progress' with
  | nil => exact same.going
  | cons step rest ih => exact (step.run_agrees policy same).proceed fun _ _ => ih

/-! ## Passes -/

/-- Which documents a pass works on is not a matter of how their amounts are written. -/
theorem Documents.Agrees.steps_eq {documents documents' : Documents}
    (same : documents.Agrees documents') (pass : Pass) :
    pass.steps documents = pass.steps documents' := by
  have payables_length := same.payables.length_eq
  have payments_length := same.payments.length_eq
  cases pass with
  | creditMemos =>
      rw [Pass.steps, Pass.steps]
      congr 1
      · exact places_eq same.payables fun _ _ same => by rw [same.creditMemo_eq]
      · rw [places_eq same.payables fun _ _ same => same.creditMemo_eq]
  | compensation =>
      rw [Pass.steps, Pass.steps]
      congr 1
      · exact places_eq same.payables fun _ _ same => by rw [same.creditMemo_eq, same.side_eq]
      · rw [places_eq same.payables fun _ _ same => by rw [same.creditMemo_eq, same.side_eq]]
  | payments =>
      rw [Pass.steps, Pass.steps, Documents.means, Documents.means, payables_length,
        payments_length]
  | reversals =>
      rw [Pass.steps, Pass.steps]
      congr 1
      · exact places_eq same.payments fun _ _ same => by
          rw [same.isFullyAllocated_eq, same.remaining.isPositive_eq]
      · exact places_eq same.payments fun _ _ same => by
          rw [same.isFullyAllocated_eq, same.remaining.isPositive_eq]
  | remainders => rw [Pass.steps, Pass.steps, payables_length]

theorem Pass.run_agrees (policy : LeftoverPolicy) (same : progress.Agrees progress')
    (pass : Pass) : SameAdvance Agrees (pass.run policy progress) (pass.run policy progress') := by
  unfold Pass.run
  rw [same.documents.steps_eq pass]
  apply (Step.runAll_agrees policy same _).proceed
  intro after after' after_same
  split
  · exact (after_same.report _ _).going
  · exact after_same.going

theorem Pass.runAll_agrees (policy : LeftoverPolicy) (same : progress.Agrees progress')
    (passes : List Pass) :
    SameAdvance Agrees (runAll policy passes progress) (runAll policy passes progress') := by
  induction passes generalizing progress progress' with
  | nil => exact same.going
  | cons pass rest ih => exact (pass.run_agrees policy same).proceed fun _ _ => ih

/-! ## Whole settlements and verdicts -/

namespace Documents

variable {documents documents' : Documents}

theorem payables_references_eq {payables payables' : List Payable}
    (same : List.Forall₂ Payable.Agrees payables payables') :
    payables.map Payable.reference = payables'.map Payable.reference :=
  forall₂_map_eq same.flip fun _ _ same => same.reference_eq

theorem payments_references_eq {payments payments' : List Payment}
    (same : List.Forall₂ Payment.Agrees payments payments') :
    payments.map Payment.reference = payments'.map Payment.reference :=
  forall₂_map_eq same.flip fun _ _ same => same.reference_eq

theorem Agrees.isEmpty_eq (same : documents.Agrees documents') :
    documents.isEmpty = documents'.isEmpty := by
  rw [isEmpty, isEmpty, forall₂_isEmpty same.payables, forall₂_isEmpty same.payments]

/-- The guards count documents and name them; amounts are none of their business. -/
theorem Agrees.check_eq (same : documents.Agrees documents') (settings : Settings) :
    documents.check settings = documents'.check settings := by
  have outbound : List.Forall₂ Payment.Agrees documents.outboundPayments
      documents'.outboundPayments :=
    forall₂_filter same.payments fun _ _ same => by rw [same.direction_eq]
  have creditMemos : List.Forall₂ Payable.Agrees documents.vendorCreditMemos
      documents'.vendorCreditMemos :=
    forall₂_filter same.payables fun _ _ same => by rw [same.side_eq, same.creditMemo_eq]
  have invoices : List.Forall₂ Payable.Agrees documents.vendorPayables
      documents'.vendorPayables :=
    forall₂_filter same.payables fun _ _ same => by rw [same.side_eq, same.creditMemo_eq]
  rw [check, check, checkVendorDocuments, checkVendorDocuments, same.isEmpty_eq,
    outbound.length_eq, creditMemos.length_eq, invoices.length_eq,
    payments_references_eq outbound, payables_references_eq creditMemos,
    payables_references_eq invoices]

theorem Agrees.openPayables_eq (same : documents.Agrees documents') :
    documents.openPayables = documents'.openPayables :=
  payables_references_eq
    (forall₂_filter same.payables fun _ _ same => by
      simp only [Decimal.sameValue_iff.mp same.remaining.1.1])

theorem Agrees.openPayments_eq (same : documents.Agrees documents') :
    documents.openPayments = documents'.openPayments :=
  payments_references_eq
    (forall₂_filter same.payments fun _ _ same => by
      simp only [Decimal.sameValue_iff.mp same.remaining.1])

theorem Agrees.verdict_eq (same : documents.Agrees documents') :
    Verdict.ofDocuments documents = Verdict.ofDocuments documents' := by
  have names := Verdict.ofDocuments_names documents
  rw [same.openPayables_eq, same.openPayments_eq] at names
  exact names.unique (Verdict.ofDocuments_names documents')

theorem Agrees.settle (same : documents.Agrees documents') (settings : Settings) :
    SameAdvance Progress.Agrees (documents.settle settings) (documents'.settle settings) := by
  unfold Documents.settle
  rw [same.check_eq settings]
  split
  · exact ⟨⟨same, .nil⟩, rfl⟩
  · exact Pass.runAll_agrees _ ⟨same, .nil⟩ _

end Documents
end Settlement
