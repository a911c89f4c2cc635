import Settlement.Matching.Pass

/-!
# What is recorded is posted

A settlement that comes to its end has posted every allocation that it recorded on a document.
Where it posts nothing, the documents are the very ones that it was given.
-/

namespace Settlement

namespace Progress

variable {before middle after progress : Progress} {policy : LeftoverPolicy}

/-- A later progress of a settlement: postings are only added, and without one the documents are
untouched. -/
structure Extends (before after : Progress) : Prop where
  postings : before.postings <+: after.postings
  documents : after.postings = before.postings → after.documents = before.documents

theorem Extends.refl (progress : Progress) : Extends progress progress :=
  ⟨List.prefix_rfl, fun _ => rfl⟩

theorem Extends.trans (early : Extends before middle) (late : Extends middle after) :
    Extends before after where
  postings := early.postings.trans late.postings
  documents same := by
    have middle_same : middle.postings = before.postings := by
      refine (early.postings.eq_of_length_le ?_).symm
      rw [← same]
      exact late.postings.length_le
    exact (late.documents (same.trans middle_same.symm)).trans (early.documents middle_same)

theorem extends_of_append {posting : Posting}
    (added : after.postings = before.postings ++ [posting]) : Extends before after where
  postings := added ▸ List.prefix_append _ _
  documents same := by
    rw [added] at same
    simp at same

/-- What goes on after an advance ends only where the advance has. -/
theorem proceed_ended {advance : Advance} {next : Progress → Advance}
    (ended : (proceed advance next).2 = none) :
    advance.2 = none ∧ proceed advance next = next advance.1 := by
  obtain ⟨progress, failure⟩ := advance
  cases failure with
  | none => exact ⟨rfl, rfl⟩
  | some failure => cases ended

theorem extends_proceed {advance : Advance} {next : Progress → Advance}
    (first : advance.2 = none → Extends progress advance.1)
    (rest : ∀ middle, (next middle).2 = none → Extends middle (next middle).1)
    (ended : (proceed advance next).2 = none) : Extends progress (proceed advance next).1 := by
  obtain ⟨advance_ended, proceed_eq⟩ := proceed_ended ended
  rw [proceed_eq] at ended ⊢
  exact (first advance_ended).trans (rest _ ended)

/-- A proposal that is booked is posted. -/
theorem postings_book {proposal : Proposal} (ended : (progress.book proposal).2 = none) :
    ∃ posting, (progress.book proposal).1.postings = progress.postings ++ [posting] := by
  obtain ⟨-, book_eq⟩ := proceed_ended ended
  rw [book, book_eq]
  exact ⟨_, rfl⟩

theorem extends_settle {proposed : Except Failure (Option Proposal)}
    (ended : (progress.settle proposed).2 = none) :
    Extends progress (progress.settle proposed).1 := by
  unfold settle at ended ⊢
  split at ended
  · obtain ⟨posting, added⟩ := postings_book ended
    exact extends_of_append added
  · exact .refl progress
  · cases ended

/-- A leftover that is moved is posted as well. -/
theorem extends_settleLeftover {index : Nat}
    (ended : (progress.settleLeftover policy index).2 = none) :
    Extends progress (progress.settleLeftover policy index).1 := by
  cases found : progress.documents.payable index with
  | error fault =>
      simp only [settleLeftover, found] at ended
      cases ended
  | ok payable =>
      simp only [settleLeftover, found] at ended ⊢
      by_cases full : payable.isFullyAllocated = true
      · rw [if_pos full]
        exact .refl progress
      rw [if_neg full] at ended ⊢
      cases moves : moved policy payable with
      | none => exact .refl progress
      | some move =>
          rw [moves] at ended
          obtain ⟨-, settle_eq⟩ := proceed_ended ended
          dsimp only at settle_eq ended ⊢
          rw [settle_eq] at ended ⊢
          -- The move alone is not posted, so the concession after it has to be.
          cases conceded : Documents.concession _ index move.after.remaining with
          | error failure =>
              rw [conceded] at ended
              cases ended
          | ok proposal =>
              rw [conceded] at ended
              obtain ⟨posting, added⟩ := postings_book ended
              exact extends_of_append added

end Progress

theorem Step.extends_run {policy : LeftoverPolicy} {progress : Progress} {step : Step}
    (ended : (step.run policy progress).2 = none) :
    Progress.Extends progress (step.run policy progress).1 := by
  cases step with
  | pair kind payable means => exact Progress.extends_settle ended
  | leftover payable => exact Progress.extends_settleLeftover ended
  | reverse inbound outbound => exact Progress.extends_settle ended
  | remainder payable => exact Progress.extends_settle ended

theorem Step.extends_runAll {policy : LeftoverPolicy} (steps : List Step) (progress : Progress)
    (ended : (runAll policy steps progress).2 = none) :
    Progress.Extends progress (runAll policy steps progress).1 := by
  induction steps generalizing progress with
  | nil => exact .refl progress
  | cons step rest ih => exact Progress.extends_proceed extends_run ih ended

theorem Pass.extends_run {policy : LeftoverPolicy} {pass : Pass} {progress : Progress}
    (ended : (pass.run policy progress).2 = none) :
    Progress.Extends progress (pass.run policy progress).1 := by
  refine Progress.extends_proceed (Step.extends_runAll _ progress) (fun middle _ => ?_) ended
  split
  · exact ⟨List.prefix_rfl, fun _ => rfl⟩
  · exact .refl middle

theorem Pass.extends_runAll {policy : LeftoverPolicy} (passes : List Pass) (progress : Progress)
    (ended : (runAll policy passes progress).2 = none) :
    Progress.Extends progress (runAll policy passes progress).1 := by
  induction passes generalizing progress with
  | nil => exact .refl progress
  | cons pass rest ih => exact Progress.extends_proceed extends_run ih ended

/-! ## Parts of a settlement -/

theorem Step.runAll_append {policy : LeftoverPolicy} (first rest : List Step)
    (progress : Progress) :
    Step.runAll policy (first ++ rest) progress =
      Progress.proceed (Step.runAll policy first progress) (Step.runAll policy rest) := by
  induction first generalizing progress with
  | nil => rfl
  | cons step first ih =>
      rw [List.cons_append, runAll, runAll]
      rcases step.run policy progress with ⟨reached, _ | failure⟩
      · exact ih reached
      · rfl

theorem Pass.runAll_append {policy : LeftoverPolicy} (first rest : List Pass)
    (progress : Progress) :
    Pass.runAll policy (first ++ rest) progress =
      Progress.proceed (Pass.runAll policy first progress) (Pass.runAll policy rest) := by
  induction first generalizing progress with
  | nil => rfl
  | cons pass first ih =>
      rw [List.cons_append, runAll, runAll]
      rcases pass.run policy progress with ⟨reached, _ | failure⟩
      · exact ih reached
      · rfl

/-! ## Settlements without postings -/

/-- A settlement that comes to its end without a posting leaves its documents as they were. -/
theorem Documents.settle_unposted {settings : Settings} {documents : Documents}
    (ended : (documents.settle settings).2 = none)
    (unposted : (documents.settle settings).1.postings = []) :
    (documents.settle settings).1.documents = documents := by
  unfold settle at ended unposted ⊢
  cases checked : documents.check settings with
  | error error => rfl
  | ok passed =>
      rw [checked] at ended unposted
      exact (Pass.extends_runAll settings.passes { documents } ended).documents unposted

end Settlement
