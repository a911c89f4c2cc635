import Mathlib.Data.Option.NAry
import Settlement.Proofs.Currencies.Proposals
import Settlement.Proofs.Recording

/-!
# Settlements in a currency

A settlement of all documents, as far as one currency goes, is a settlement of the documents in
that currency: steps between these are taken there too, at their positions, and all other steps
change nothing there.
-/

namespace Settlement

namespace Documents

/-- A step, as the documents in a currency take it.  A step with a document in another currency is
not taken there. -/
def step? (currency : Currency) (documents : Documents) : Step → Option Step
  | .pair kind payable means =>
      Option.map₂ (Step.pair kind) (documents.payablePosition? currency payable)
        (documents.means? currency means)
  | .leftover payable => Step.leftover <$> documents.payablePosition? currency payable
  | .reverse inbound outbound =>
      Option.map₂ Step.reverse (documents.paymentPosition? currency inbound)
        (documents.paymentPosition? currency outbound)
  | .remainder payable => Step.remainder <$> documents.payablePosition? currency payable

end Documents

namespace Progress

/-- A settlement of documents that are the `start` but for their balances, and one of the part of
them in a currency: the candidates there are those in the currency. -/
structure Mirrors (start : Documents) (currency : Currency) (whole part : Progress) : Prop where
  documents : start.Mirrors currency whole.documents part.documents
  candidates : part.candidates = whole.candidates.filter (·.currency == currency)
  named : ∀ candidate ∈ part.candidates, start.Names candidate

variable {start : Documents} {currency : Currency} {whole part : Progress}

/-! ## Booking -/

theorem candidates_post (progress : Progress) (posting : Posting) :
    { progress with postings := progress.postings ++ [posting] }.candidates =
      progress.candidates ++ [posting.candidate] :=
  List.map_append

/-- What is proposed is not noticed among candidates that it does not belong to. -/
theorem filter_settle {progress : Progress} {keep : Candidate → Bool}
    {proposed : Except Failure (Option Proposal)}
    (dropped : ∀ proposal, proposed = .ok (some proposal) → keep proposal.candidate = false) :
    (progress.settle proposed).1.candidates.filter keep = progress.candidates.filter keep := by
  match proposed, dropped with
  | .ok none, _ => rfl
  | .error failure, _ => rfl
  | .ok (some proposal), dropped =>
      apply holds_proceed fun reached =>
        reached.candidates.filter keep = progress.candidates.filter keep
      · rfl
      · intro reached same
        rw [candidates_post, List.filter_append, same]
        simp [dropped proposal rfl]

theorem Mirrors.book (mirrors : whole.Mirrors start currency part) {left right : Proposal}
    (proposals : left.Mirrors start currency right) :
    SameAdvance (Mirrors start currency) (whole.book left) (part.book right) := by
  have recorded := proposals.record mirrors.documents
  apply SameAdvance.proceed
  · exact ⟨⟨recorded.after, mirrors.candidates, mirrors.named⟩,
      congrArg (Option.map Failure.broken) recorded.fault?_eq⟩
  · intro reached reached' reached_mirrors
    refine ⟨⟨reached_mirrors.documents, ?_, ?_⟩, rfl⟩
    · have kept : [left.candidate].filter (·.currency == currency) = [left.candidate] :=
        List.filter_cons_of_pos (beq_iff_eq.mpr proposals.currency_eq)
      rw [candidates_post, candidates_post, List.filter_append, ← reached_mirrors.candidates,
        kept, proposals.candidate_eq]
    · intro candidate mem
      rw [candidates_post, List.mem_append, List.mem_singleton] at mem
      rcases mem with earlier | rfl
      · exact reached_mirrors.named candidate earlier
      · rw [proposals.candidate_eq]
        exact proposals.named

/-- What is booked in another currency is not noticed in the currency. -/
theorem Mirrors.book_outside (mirrors : whole.Mirrors start currency part) {proposal : Proposal}
    (outside : proposal.Outside start currency) :
    (whole.book proposal).1.Mirrors start currency part := by
  apply holds_proceed (Mirrors start currency · part)
  · exact ⟨outside.record mirrors.documents, mirrors.candidates, mirrors.named⟩
  · intro reached reached_mirrors
    refine ⟨reached_mirrors.documents, ?_, reached_mirrors.named⟩
    have dropped : [proposal.candidate].filter (·.currency == currency) = [] :=
      List.filter_cons_of_neg fun same => outside.currency_ne (beq_iff_eq.mp same)
    rw [candidates_post, List.filter_append, ← reached_mirrors.candidates, dropped,
      List.append_nil]

theorem Mirrors.settle (mirrors : whole.Mirrors start currency part)
    {proposed proposed' : Except Failure (Option Proposal)}
    (same : SameOutcome (Option.Rel (Proposal.Mirrors start currency)) proposed proposed') :
    SameAdvance (Mirrors start currency) (whole.settle proposed) (part.settle proposed') := by
  cases same with
  | failed failure => exact ⟨mirrors, rfl⟩
  | done same =>
      cases same with
      | none => exact ⟨mirrors, rfl⟩
      | some proposals => exact mirrors.book proposals

theorem Mirrors.settle_outside (mirrors : whole.Mirrors start currency part)
    {proposed : Except Failure (Option Proposal)}
    (outside : ∀ proposal, proposed = .ok (some proposal) → proposal.Outside start currency) :
    (whole.settle proposed).1.Mirrors start currency part := by
  match proposed, outside with
  | .ok (some proposal), outside => exact mirrors.book_outside (outside proposal rfl)
  | .ok none, _ => exact mirrors
  | .error failure, _ => exact mirrors

/-- Where leftovers stay open, dealing with one changes nothing. -/
theorem settleLeftover_leaveOpen {payable : Payable} {index : Nat} {progress : Progress}
    (payable_eq : progress.documents.payable index = .ok payable) :
    progress.settleLeftover .leaveOpen index = (progress, none) := by
  unfold settleLeftover
  rw [payable_eq]
  dsimp only [moved]
  split
  · rfl
  · rfl

theorem settleLeftover_progress (index : Nat) (progress : Progress) :
    (progress.settleLeftover .leaveOpen index).1 = progress := by
  unfold settleLeftover
  split
  · rfl
  dsimp only [moved]
  split
  · rfl
  · rfl

/-! ## Steps -/

/-- A step between documents in the currency is taken in the part as well. -/
theorem Mirrors.run (mirrors : whole.Mirrors start currency part) (single : start.SingleCurrency)
    {step step' : Step} (step_eq : start.step? currency step = some step') :
    SameAdvance (Mirrors start currency) (step.run .leaveOpen whole)
      (step'.run .leaveOpen part) := by
  cases step with
  | pair kind payable means =>
      obtain ⟨position, means', position_eq, means_eq, rfl⟩ := Option.map₂_eq_some_iff.mp step_eq
      exact mirrors.settle (mirrors.documents.pairing single position_eq means_eq kind)
  | leftover payable =>
      obtain ⟨position, position_eq, rfl⟩ := Option.map_eq_some_iff.mp step_eq
      obtain ⟨found, -, whole_eq, part_eq, -⟩ := mirrors.documents.payable position_eq
      rw [Step.run, Step.run, settleLeftover_leaveOpen whole_eq, settleLeftover_leaveOpen part_eq]
      exact ⟨mirrors, rfl⟩
  | reverse inbound outbound =>
      obtain ⟨received, made, inbound_eq, outbound_eq, rfl⟩ := Option.map₂_eq_some_iff.mp step_eq
      exact mirrors.settle (mirrors.documents.reversal single inbound_eq outbound_eq)
  | remainder payable =>
      obtain ⟨position, position_eq, rfl⟩ := Option.map_eq_some_iff.mp step_eq
      exact mirrors.settle (mirrors.documents.remainder single position_eq)

/-- A step with a document in another currency is not noticed in the part. -/
theorem Mirrors.run_outside (mirrors : whole.Mirrors start currency part)
    (single : start.SingleCurrency) {step : Step} (step_eq : start.step? currency step = none) :
    (step.run .leaveOpen whole).1.Mirrors start currency part := by
  cases step with
  | pair kind payable means =>
      have outside := Option.map₂_eq_none_iff.mp step_eq
      exact mirrors.settle_outside fun proposal proposed =>
        mirrors.documents.pairing_outside single outside proposed
  | leftover payable =>
      rw [Step.run, settleLeftover_progress]
      exact mirrors
  | reverse inbound outbound =>
      have outside := Option.map₂_eq_none_iff.mp step_eq
      exact mirrors.settle_outside fun proposal proposed =>
        mirrors.documents.reversal_outside single outside proposed
  | remainder payable =>
      have outside := Option.map_eq_none_iff.mp step_eq
      exact mirrors.settle_outside fun proposal proposed =>
        mirrors.documents.remainder_outside single outside proposed

/-- Where the steps among all documents come to their end, those of them that are taken in the part
do too. -/
theorem Mirrors.runAll (mirrors : whole.Mirrors start currency part)
    (single : start.SingleCurrency) (steps : List Step)
    (ended : (Step.runAll .leaveOpen steps whole).2 = none) :
    SameAdvance (Mirrors start currency) (Step.runAll .leaveOpen steps whole)
      (Step.runAll .leaveOpen (steps.filterMap (start.step? currency)) part) := by
  induction steps generalizing whole part with
  | nil => exact ⟨mirrors, rfl⟩
  | cons step rest ih =>
      obtain ⟨step_ended, rest_eq⟩ := proceed_ended ended
      rw [Step.runAll, rest_eq] at ended ⊢
      cases step_eq : start.step? currency step with
      | none =>
          rw [List.filterMap_cons_none step_eq]
          exact ih (mirrors.run_outside single step_eq) ended
      | some step' =>
          have taken := mirrors.run single step_eq
          have part_ended := taken.failure?_eq.symm.trans step_ended
          rw [List.filterMap_cons_some step_eq, Step.runAll, proceed_of_ended part_ended]
          exact ih taken.progress ended

end Progress

end Settlement
