import Settlement.Proofs.Exact.Contributions

/-!
# Distinct references are never refused

The only reason to refuse an entry is one reference on both of its sides.  A well-placed step
names two documents of the book, so where no reference stands for two documents every deal is
accepted and every settlement comes to its end.
-/

namespace Settlement

namespace Book

variable {policy : LeftoverPolicy} {book : Book}

/-- A document that serves as a means of payment has another reference than the debt it pays. -/
theorem Distinct.source_ne (distinct : book.Distinct) {kind : CandidateKind} {index : Nat}
    {means : Means} (serves : book.Serves kind index means) {debt : Debt} {source : Source}
    (debt_eq : book.debts[index]? = some debt) (source_eq : book.source? means = some source) :
    source.reference ≠ debt.reference := by
  cases means with
  | payment other =>
      obtain ⟨fund, fund_eq, rfl⟩ := Option.map_eq_some_iff.mp source_eq
      exact (distinct.debt_ne_fund debt_eq fund_eq).symm
  | creditMemo other =>
      obtain ⟨memo, memo_eq, rfl⟩ := Option.map_eq_some_iff.mp source_eq
      intro same
      exact serves.ne_creditMemo ((distinct.debt_place memo_eq debt_eq).mp same).symm
  | purchaseInvoice other =>
      obtain ⟨bill, bill_eq, rfl⟩ := Option.map_eq_some_iff.mp source_eq
      intro same
      exact serves.ne_purchaseInvoice ((distinct.debt_place bill_eq debt_eq).mp same).symm

theorem Deals.accepted (distinct : book.Distinct) {step : Step} {deal : Deal}
    (dealt : Deals policy book step deal) (placed : book.Placed step) :
    deal.entry.refusal? = none := by
  cases dealt with
  | pair debt_eq source_eq debt_open source_open fits =>
      have differ := distinct.source_ne placed debt_eq source_eq
      exact if_neg fun same => differ (Option.some.inj same)
  | leftover debt_eq debt_open moves => exact if_neg nofun
  | reverse received_eq made_eq received_open made_open currency_eq =>
      refine if_neg fun same => ?_
      exact placed.reverse_ne ((distinct.fund_place received_eq made_eq).mp (Option.some.inj same))
  | remainder debt_eq carries => exact if_neg nofun

end Book

namespace History

variable {policy : LeftoverPolicy} {history : History}

theorem proceed_eq {advance : History × Option AllocationError} (ended : advance.2 = none)
    (next : History → History × Option AllocationError) :
    proceed advance next = next advance.1 := by
  obtain ⟨reached, error⟩ := advance
  cases error with
  | none => rfl
  | some error => cases ended

/-- What comes to its end in two parts has come to the end of the first. -/
theorem proceed_ended {advance : History × Option AllocationError}
    {next : History → History × Option AllocationError}
    (ended : (proceed advance next).2 = none) :
    advance.2 = none ∧ proceed advance next = next advance.1 := by
  obtain ⟨reached, error⟩ := advance
  cases error with
  | none => exact ⟨rfl, rfl⟩
  | some error => cases ended

theorem step_ends (distinct : history.book.Distinct) {step : Step}
    (placed : history.book.Placed step) : (history.step policy step).2 = none := by
  obtain ⟨-, step_eq⟩ | ⟨deal, -, -, step_eq⟩ | ⟨deal, error, dealt, refused, -⟩ :=
    step_cases policy history step
  · rw [step_eq]
  · rw [step_eq]
  · cases refused.symm.trans (dealt.accepted distinct placed)

theorem runAll_ends (sound : history.book.Sound policy) (distinct : history.book.Distinct)
    {steps : List Step} (placed : ∀ step ∈ steps, history.book.Placed step) :
    (history.runAll policy steps).2 = none := by
  induction steps generalizing history with
  | nil => rfl
  | cons step rest ih =>
      have here := placed step (by simp)
      have later := later_step sound here
      rw [runAll, proceed_eq (step_ends distinct here)]
      exact ih later.sound (later.distinct distinct) fun other mem =>
        later.placed (placed other (by simp [mem]))

theorem runPasses_ends (sound : history.book.Sound policy) (distinct : history.book.Distinct)
    (passes : List Pass) : (history.runPasses policy passes).2 = none := by
  induction passes generalizing history with
  | nil => rfl
  | cons pass rest ih =>
      have later := later_pass sound pass
      rw [runPasses, proceed_eq (runAll_ends sound distinct (Book.placed_steps sound pass))]
      exact ih later.sound (later.distinct distinct)

end History

namespace Book

variable {settings : Settings} {book : Book}

theorem settle_of_checked (checked : book.check settings = .ok ()) :
    book.settle settings = History.runPasses settings.leftover settings.passes { book } := by
  rw [settle, checked]

/-- A settlement of distinct documents that passes its check comes to its end. -/
theorem settle_ends (sound : book.Sound settings.leftover) (distinct : book.Distinct)
    (checked : book.check settings = .ok ()) : (book.settle settings).2 = none := by
  rw [settle_of_checked checked]
  exact History.runPasses_ends sound distinct settings.passes

end Book

end Settlement
