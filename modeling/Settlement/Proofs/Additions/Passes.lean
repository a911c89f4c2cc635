import Settlement.Proofs.Additions.Documents
import Settlement.Proofs.Currencies.Passes

/-!
# Passes with one payment more

The passes before the payments take the same steps on both sides.  The pass over the payments then
has one step more for each payable, the last before what is left of it, and payables that have
come to the new payment are not looked at again.  So the candidates that do not name the new
payment are the same up to there, and no more is left to pay of any payable.
-/

namespace Settlement

namespace Progress

/-- Two settlements, the wide one with one payment more: apart from what names the new payment
they have made the same candidates. -/
structure Widened (extra : Reference) (place bound : Nat) (narrow wide : Progress) : Prop where
  documents : narrow.documents.Widened extra place bound wide.documents
  candidates : wide.candidates.filter (!·.Names extra) = narrow.candidates.filter (!·.Names extra)

variable {extra : Reference} {place bound : Nat} {narrow wide : Progress}

theorem Widened.mono (widened : narrow.Widened extra place bound wide) {later : Nat}
    (grown : bound ≤ later) : narrow.Widened extra place later wide :=
  ⟨⟨widened.documents.toBeside.mono grown, widened.documents.payables⟩, widened.candidates⟩

/-! ## Steps on both sides -/

theorem Widened.book (widened : narrow.Widened extra place bound wide) {proposal : Proposal}
    (record : (proposal.record narrow.documents).Same (Documents.Widened extra place bound)
      (proposal.record wide.documents)) :
    SameAdvance (Widened extra place bound) (narrow.book proposal) (wide.book proposal) := by
  apply SameAdvance.proceed
  · exact ⟨⟨record.after, widened.candidates⟩,
      congrArg (Option.map Failure.broken) record.fault?_eq⟩
  · intro reached reached' related
    refine ⟨⟨related.documents, ?_⟩, rfl⟩
    rw [candidates_post, candidates_post, List.filter_append, List.filter_append,
      related.candidates]

/-- A step that knows nothing of the new payment does the same on both sides. -/
theorem Widened.run (widened : narrow.Widened extra place bound wide) {step : Step}
    (shared : step.Shared place bound) :
    SameAdvance (Widened extra place bound) (step.run .leaveOpen narrow)
      (step.run .leaveOpen wide) := by
  cases step with
  | pair kind index means =>
      obtain ⟨later, shared⟩ := shared
      simp only [Step.run, widened.documents.pairing_eq kind later shared]
      cases proposed : narrow.documents.pairing kind index means with
      | error failure => exact ⟨widened, rfl⟩
      | ok proposal? =>
          cases proposal? with
          | none => exact ⟨widened, rfl⟩
          | some proposal =>
              obtain ⟨payable, view, pairs⟩ := Documents.pairing_eq_some proposed
              apply widened.book
              rw [pairs.record_eq]
              exact widened.documents.record later shared _
  | leftover index =>
      refine ⟨?_, ?_⟩
      · simp only [Step.run, settleLeftover_progress]
        exact widened
      · have paired := forall₂_rel widened.documents.payables index
        have length_eq := widened.documents.payables.length_eq
        simp only [Step.run, settleLeftover, Documents.payable, Documents.entry, moved, length_eq]
        generalize narrow.documents.payables[index]? = given,
          wide.documents.payables[index]? = found at paired ⊢
        cases paired with
        | none => rfl
        | some undercuts =>
            dsimp only
            split <;> split <;> rfl
  | reverse inbound outbound => cases shared
  | remainder index => cases shared

theorem Widened.runAll (widened : narrow.Widened extra place bound wide) {steps : List Step}
    (shared : ∀ step ∈ steps, step.Shared place bound) :
    SameAdvance (Widened extra place bound) (Step.runAll .leaveOpen steps narrow)
      (Step.runAll .leaveOpen steps wide) := by
  induction steps generalizing narrow wide with
  | nil => exact ⟨widened, rfl⟩
  | cons step rest ih =>
      refine (widened.run (shared step (by simp))).proceed fun reached reached' related => ?_
      exact ih related fun other mem => shared other (by simp [mem])

/-! ## Steps with the new payment -/

/-- Pairing the next payable with the new payment changes no other documents. -/
theorem Widened.beside_extra (widened : narrow.Widened extra place bound wide)
    (kind : CandidateKind) :
    narrow.documents.Beside extra place (bound + 1)
      ((Step.pair kind bound (.payment place)).run .leaveOpen wide).1.documents := by
  have beside := widened.documents.toBeside.mono (Nat.le_succ bound)
  rw [Step.run]
  cases proposed : wide.documents.pairing kind bound (.payment place) with
  | error failure => exact beside
  | ok proposal? =>
      cases proposal? with
      | none => exact beside
      | some proposal =>
          obtain ⟨payable, view, pairs⟩ := Documents.pairing_eq_some proposed
          apply holds_proceed fun reached =>
            narrow.documents.Beside extra place (bound + 1) reached.documents
          · rw [pairs.record_eq]
            exact Attempt.holds_andThen (narrow.documents.Beside extra place (bound + 1))
              (beside.changePayable _) fun _ allocated => allocated.pay _
          · exact fun reached reached_beside => reached_beside

/-- Pairing the next payable with the new payment leaves no more of it to pay. -/
theorem Widened.run_extra (widened : narrow.Widened extra place bound wide) (exact : wide.Exact)
    (sound : wide.history.book.Sound .leaveOpen) {kind : CandidateKind}
    (placed : wide.history.book.Placed (.pair kind bound (.payment place))) :
    narrow.Widened extra place (bound + 1)
      ((Step.pair kind bound (.payment place)).run .leaveOpen wide).1 := by
  have later := History.later_step sound placed
  rw [← (run_follows exact sound placed).history_eq] at later
  refine ⟨⟨widened.beside_extra kind, ?_⟩, ?_⟩
  · refine forall₂_trans (fun _ _ _ => Payable.Undercuts.trans) widened.documents.payables ?_
    exact forall₂_of_map later.debts fun _ _ _ _ step =>
      ⟨congrArg Debt.Terms.reference step.terms_eq, step.pay⟩
  · rw [← widened.candidates]
    refine filter_settle fun proposal proposed => ?_
    rw [widened.documents.names_extra proposed, Bool.not_true]

end Progress

/-! ## Rows of steps -/

namespace Progress

variable {extra : Reference} {place bound : Nat} {narrow wide : Progress} {kind : CandidateKind}
  {means : List Means}

/-- The next payable is paired with the new payment after all others. -/
theorem Widened.row (widened : narrow.Widened extra place bound wide) (exact : wide.Exact)
    (sound : wide.history.book.Sound .leaveOpen)
    (shared : ∀ other ∈ means, other.Shared place bound)
    (placed : ∀ step ∈ Step.row kind (means ++ [.payment place]) bound,
      wide.history.book.Placed step)
    (ended : (Step.runAll .leaveOpen (Step.row kind (means ++ [.payment place]) bound) wide).2 =
      none) :
    SameAdvance (Widened extra place (bound + 1))
      (Step.runAll .leaveOpen (Step.row kind means bound) narrow)
      (Step.runAll .leaveOpen (Step.row kind (means ++ [.payment place]) bound) wide) := by
  have row_eq : Step.row kind (means ++ [.payment place]) bound =
      means.map (.pair kind bound) ++ [.pair kind bound (.payment place), .leftover bound] := by
    simp [Step.row]
  rw [row_eq] at placed ended ⊢
  rw [Step.runAll_append] at ended ⊢
  rw [Step.row, Step.runAll_append]
  obtain ⟨shared_ended, rest_eq⟩ := proceed_ended ended
  have paired : SameAdvance (Widened extra place bound)
      (Step.runAll .leaveOpen (means.map (.pair kind bound)) narrow)
      (Step.runAll .leaveOpen (means.map (.pair kind bound)) wide) := by
    refine widened.runAll fun step mem => ?_
    obtain ⟨other, other_mem, rfl⟩ := List.mem_map.mp mem
    exact ⟨Nat.le_refl bound, shared other other_mem⟩
  obtain ⟨reached_exact, later⟩ := later_runAll exact sound
    fun step mem => placed step (List.mem_append_left _ mem)
  have extra_placed := later.placed (placed (.pair kind bound (.payment place)) (by simp))
  rw [rest_eq] at ended ⊢
  rw [proceed_of_ended (paired.failure?_eq.trans shared_ended)]
  generalize Step.runAll .leaveOpen (means.map (.pair kind bound)) wide = reached at *
  have met := paired.progress.run_extra reached_exact later.sound extra_placed
  have leftover_eq : Step.runAll .leaveOpen
      [.pair kind bound (.payment place), .leftover bound] reached.1 = _ := (proceed_ended ended).2
  rw [leftover_eq]
  exact met.runAll fun step mem => by simp_all [Step.Shared]

/-- Row by row, the payables come to the new payment. -/
theorem Widened.rows (widened : narrow.Widened extra place bound wide) (exact : wide.Exact)
    (sound : wide.history.book.Sound .leaveOpen) {payables : List Nat}
    (rising : payables.Pairwise (· < ·)) (later : ∀ payable ∈ payables, bound ≤ payable)
    (shared : ∀ other ∈ means, ∀ bound, other.Shared place bound)
    (placed : ∀ step ∈ payables.flatMap (Step.row kind (means ++ [.payment place])),
      wide.history.book.Placed step)
    (ended : (Step.runAll .leaveOpen
      (payables.flatMap (Step.row kind (means ++ [.payment place]))) wide).2 = none) :
    SameAdvance (fun narrow wide => ∃ bound, Widened extra place bound narrow wide)
      (Step.runAll .leaveOpen (payables.flatMap (Step.row kind means)) narrow)
      (Step.runAll .leaveOpen
        (payables.flatMap (Step.row kind (means ++ [.payment place]))) wide) := by
  induction payables generalizing narrow wide bound with
  | nil => exact ⟨⟨bound, widened⟩, rfl⟩
  | cons payable rest ih =>
      obtain ⟨above, rest_rising⟩ := List.pairwise_cons.mp rising
      rw [List.flatMap_cons] at placed ended ⊢
      rw [List.flatMap_cons, Step.runAll_append, Step.runAll_append]
      rw [Step.runAll_append] at ended
      obtain ⟨row_ended, rest_eq⟩ := proceed_ended ended
      have row_placed := fun step mem => placed step (List.mem_append_left _ mem)
      have reaching := widened.mono (later payable (by simp))
      have row := reaching.row exact sound (fun other mem => shared other mem payable) row_placed
        row_ended
      obtain ⟨reached_exact, later_book⟩ := later_runAll exact sound row_placed
      rw [rest_eq] at ended ⊢
      rw [proceed_of_ended (row.failure?_eq.trans row_ended)]
      exact ih row.progress reached_exact later_book.sound rest_rising above
        (fun step mem => later_book.placed (placed step (List.mem_append_right _ mem))) ended

/-! ## Whole passes -/

/-- The passes before the payments take the same steps on both sides. -/
theorem Widened.pass (widened : narrow.Widened extra place 0 wide) {pass : Pass}
    (early : pass = .creditMemos ∨ pass = .compensation) :
    SameAdvance (Widened extra place 0) (pass.run .leaveOpen narrow)
      (pass.run .leaveOpen wide) := by
  have payables_eq : wide.documents.payables = narrow.documents.payables :=
    List.ext_getElem? fun index => widened.documents.untouched index (Nat.zero_le index)
  have steps_eq : pass.steps wide.documents = pass.steps narrow.documents := by
    rcases early with rfl | rfl <;> simp only [Pass.steps, payables_eq]
  have shared : ∀ step ∈ pass.steps narrow.documents, step.Shared place 0 := by
    intro step mem
    have paired : ∃ kind payables means, step ∈ Step.pairAll kind payables means ∧
        ∀ other ∈ means, other.Shared place 0 := by
      rcases early with rfl | rfl
      · exact ⟨_, _, _, mem, by simp [Means.Shared]⟩
      · exact ⟨_, _, _, mem, by simp [Means.Shared]⟩
    obtain ⟨kind, payables, means, mem, shared⟩ := paired
    obtain ⟨-, payable, -, ⟨other, other_mem, rfl⟩ | rfl⟩ := Step.mem_pairAll.mp mem
    · exact ⟨Nat.zero_le payable, shared other other_mem⟩
    · trivial
  rw [Pass.run, Pass.run, steps_eq]
  apply (widened.runAll shared).proceed
  intro reached reached' related
  split <;> exact ⟨⟨related.documents, related.candidates⟩, rfl⟩

theorem Widened.passes (widened : narrow.Widened extra place 0 wide) {passes : List Pass}
    (early : ∀ pass ∈ passes, pass = .creditMemos ∨ pass = .compensation) :
    SameAdvance (Widened extra place 0) (Pass.runAll .leaveOpen passes narrow)
      (Pass.runAll .leaveOpen passes wide) := by
  induction passes generalizing narrow wide with
  | nil => exact ⟨widened, rfl⟩
  | cons pass rest ih =>
      refine (widened.pass (early pass (by simp))).proceed fun reached reached' related => ?_
      exact ih related fun other mem => early other (by simp [mem])

/-- The pass over the payments comes to its end without the new payment if it does with it. -/
theorem Widened.payments (widened : narrow.Widened extra place 0 wide) (exact : wide.Exact)
    (sound : wide.history.book.Sound .leaveOpen)
    (ended : (Pass.payments.run .leaveOpen wide).2 = none) :
    SameAdvance (fun narrow wide => ∃ bound, Widened extra place bound narrow wide)
      (Pass.payments.run .leaveOpen narrow) (Pass.payments.run .leaveOpen wide) := by
  have means_eq := widened.documents.means_eq
  have wide_eq : Pass.payments.steps wide.documents =
      (List.range narrow.documents.payables.length).flatMap
        (Step.row .invoiceToPayment (narrow.documents.means ++ [.payment place])) := by
    rw [Pass.steps, means_eq, widened.documents.payables.length_eq, Step.pairAll,
      if_neg (by simp)]
    rfl
  have narrow_rows := Step.rows_pairAll .invoiceToPayment
    (List.range narrow.documents.payables.length) narrow.documents.means
  have shared : ∀ other ∈ narrow.documents.means, ∀ bound, other.Shared place bound := by
    intro other mem bound
    obtain ⟨index, index_mem, rfl⟩ := List.mem_map.mp mem
    exact widened.documents.place_eq ▸ List.mem_range.mp index_mem
  have placed := Book.placed_steps sound .payments
  have book_eq : wide.history.book.steps .payments = _ :=
    (wide.documents.steps_book .payments).symm.trans wide_eq
  rw [book_eq] at placed
  rw [Pass.run, wide_eq] at ended
  rw [Pass.run, Pass.run, wide_eq]
  obtain ⟨steps_ended, -⟩ := proceed_ended ended
  have rows := widened.rows exact sound List.pairwise_lt_range
    (fun payable _ => Nat.zero_le payable) shared placed steps_ended
  have narrow_ended := rows.failure?_eq.trans steps_ended
  rw [runAll_upToLeftovers narrow_rows narrow_ended] at rows
  apply rows.proceed
  rintro reached reached' ⟨bound, related⟩
  exact ⟨⟨bound, related.documents, related.candidates⟩, rfl⟩

end Progress
end Settlement
