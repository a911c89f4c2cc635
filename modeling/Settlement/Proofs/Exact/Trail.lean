import Settlement.Proofs.Exact.Soundness

/-!
# The trail of a settlement

The steps of a pass are well placed in the book that they are made from, and stay so while the
book becomes later.  A settlement therefore leaves a trail, whether it comes to its end or not.
-/

namespace Settlement

theorem mem_places {α : Type} {property : α → Bool} {entries : List α} {index : Nat} :
    index ∈ places property entries ↔
      ∃ entry, entries[index]? = some entry ∧ property entry = true := by
  rw [places, List.mem_filter, List.mem_range, Option.any_eq_true_iff_get]
  constructor
  · rintro ⟨bound, present, holds⟩
    exact ⟨_, (Option.some_get present).symm, holds⟩
  · rintro ⟨entry, entry_eq, holds⟩
    have bound := (List.getElem?_eq_some_iff.mp entry_eq).1
    refine ⟨bound, by simp [entry_eq], ?_⟩
    simpa [entry_eq] using holds

/-- Places are found alike in a list and in what its entries are read as. -/
theorem places_map {α β : Type} (read : α → β) (property : β → Bool) (entries : List α) :
    places property (entries.map read) = places (fun entry => property (read entry)) entries := by
  rw [places, places, List.length_map]
  refine List.filter_congr fun index _ => ?_
  rw [List.getElem?_map]
  cases entries[index]? <;> rfl

namespace Step

theorem mem_pairAll {kind : CandidateKind} {payables : List Nat} {means : List Means}
    {step : Step} :
    step ∈ pairAll kind payables means ↔
      means ≠ [] ∧ ∃ payable ∈ payables,
        (∃ one ∈ means, step = pair kind payable one) ∨ step = leftover payable := by
  unfold pairAll
  split_ifs with empty
  · simp [List.isEmpty_iff.mp empty]
  · have some_means : means ≠ [] := by simpa using empty
    simp only [List.mem_flatMap, List.mem_append, List.mem_map, List.mem_singleton,
      eq_comm (a := step), some_means, ne_eq, not_false_eq_true, true_and]

theorem pair_mem_pairAll {kind : CandidateKind} {payables : List Nat} {means : List Means}
    {payable : Nat} {one : Means} (payable_mem : payable ∈ payables) (one_mem : one ∈ means) :
    pair kind payable one ∈ pairAll kind payables means :=
  mem_pairAll.mpr
    ⟨List.ne_nil_of_mem one_mem, payable, payable_mem, .inl ⟨one, one_mem, rfl⟩⟩

theorem mem_reverseAll {inbound outbound : List Nat} {step : Step} :
    step ∈ reverseAll inbound outbound ↔
      ∃ received ∈ inbound, ∃ made ∈ outbound, step = reverse received made := by
  simp only [reverseAll, List.mem_flatMap, List.mem_map, eq_comm]

end Step

namespace Book

variable {policy : LeftoverPolicy} {before book after : Book}

theorem Later.terms_eq (later : Later policy before after) : after.terms = before.terms := by
  rw [terms, terms, forall₂_map_eq later.debts fun _ _ step => step.terms_eq,
    forall₂_map_eq later.funds fun _ _ step => step.terms_eq]

theorem Later.check_eq (later : Later policy before after) (settings : Settings) :
    after.check settings = before.check settings := by
  rw [check, check, later.terms_eq]

theorem Later.debt_terms (later : Later policy before after) {index : Nat} {debt : Debt}
    (debt_eq : before.debts[index]? = some debt) :
    ∃ found, after.debts[index]? = some found ∧ found.toTerms = debt.toTerms := by
  obtain ⟨found, found_eq, step⟩ := forall₂_getElem? later.debts debt_eq
  exact ⟨found, found_eq, step.terms_eq⟩

theorem Later.fund_terms (later : Later policy before after) {index : Nat} {fund : Fund}
    (fund_eq : before.funds[index]? = some fund) :
    ∃ found, after.funds[index]? = some found ∧ found.toTerms = fund.toTerms := by
  obtain ⟨found, found_eq, step⟩ := forall₂_getElem? later.funds fund_eq
  exact ⟨found, found_eq, step.terms_eq⟩

theorem Later.serves (later : Later policy before after) {kind : CandidateKind} {index : Nat}
    {means : Means} (serves : before.Serves kind index means) :
    after.Serves kind index means := by
  unfold Serves at serves ⊢
  split at serves
  · obtain ⟨⟨debt, debt_eq, plain⟩, memo, memo_eq, credit⟩ := serves
    obtain ⟨debt', debt_eq', debt_terms⟩ := later.debt_terms debt_eq
    obtain ⟨memo', memo_eq', memo_terms⟩ := later.debt_terms memo_eq
    exact ⟨⟨debt', debt_eq', debt_terms ▸ plain⟩, memo', memo_eq', memo_terms ▸ credit⟩
  · obtain ⟨⟨debt, debt_eq, sale⟩, bill, bill_eq, purchase⟩ := serves
    obtain ⟨debt', debt_eq', debt_terms⟩ := later.debt_terms debt_eq
    obtain ⟨bill', bill_eq', bill_terms⟩ := later.debt_terms bill_eq
    exact ⟨⟨debt', debt_eq', debt_terms ▸ sale⟩, bill', bill_eq', bill_terms ▸ purchase⟩
  · exact ⟨later.debts.length_eq ▸ serves.1, later.funds.length_eq ▸ serves.2⟩
  · exact serves

/-- A step stays well placed. -/
theorem Later.placed (later : Later policy before after) {step : Step}
    (placed : before.Placed step) : after.Placed step := by
  cases step with
  | pair kind index means => exact later.serves placed
  | leftover index => exact Nat.lt_of_lt_of_eq placed later.debts.length_eq
  | remainder index => exact Nat.lt_of_lt_of_eq placed later.debts.length_eq
  | reverse inbound outbound =>
      obtain ⟨⟨received, received_eq, received_pos⟩, made, made_eq, made_neg⟩ := placed
      obtain ⟨received', received_eq', received_terms⟩ := later.fund_terms received_eq
      obtain ⟨made', made_eq', made_terms⟩ := later.fund_terms made_eq
      exact ⟨⟨received', received_eq', received_terms ▸ received_pos⟩,
        made', made_eq', made_terms ▸ made_neg⟩

theorem lt_length_of_mem_places {property : Debt → Bool} {index : Nat}
    (mem : index ∈ places property book.debts) : index < book.debts.length := by
  obtain ⟨debt, debt_eq, -⟩ := mem_places.mp mem
  exact (List.getElem?_eq_some_iff.mp debt_eq).1

/-- A fund with something left above zero started above zero, and the other way round. -/
theorem Sound.initial_signs (sound : book.Sound policy) {index : Nat} {fund : Fund}
    (fund_eq : book.funds[index]? = some fund) :
    (0 < fund.remaining → 0 < fund.initial) ∧ (fund.remaining < 0 → fund.initial < 0) := by
  have within := (sound.fund fund_eq).remaining_within
  unfold Within at within
  omega

/-- The steps of a pass are well placed in the book that they are made from. -/
theorem placed_steps (sound : book.Sound policy) (pass : Pass) :
    ∀ step ∈ book.steps pass, book.Placed step := by
  intro step mem
  cases pass with
  | creditMemos =>
      obtain ⟨-, index, index_mem, ⟨means, means_mem, rfl⟩ | rfl⟩ := Step.mem_pairAll.mp mem
      · obtain ⟨other, other_mem, rfl⟩ := List.mem_map.mp means_mem
        obtain ⟨debt, debt_eq, plain⟩ := mem_places.mp index_mem
        obtain ⟨memo, memo_eq, credit⟩ := mem_places.mp other_mem
        exact ⟨⟨debt, debt_eq, by simpa using plain⟩, memo, memo_eq, credit⟩
      · exact lt_length_of_mem_places index_mem
  | compensation =>
      obtain ⟨-, index, index_mem, ⟨means, means_mem, rfl⟩ | rfl⟩ := Step.mem_pairAll.mp mem
      · obtain ⟨other, other_mem, rfl⟩ := List.mem_map.mp means_mem
        obtain ⟨debt, debt_eq, sale⟩ := mem_places.mp index_mem
        obtain ⟨bill, bill_eq, purchase⟩ := mem_places.mp other_mem
        simp only [Bool.and_eq_true, Bool.not_eq_true', TradeSide.isSales_iff,
          TradeSide.isPurchase_iff] at sale purchase
        exact ⟨⟨debt, debt_eq, sale⟩, bill, bill_eq, purchase⟩
      · exact lt_length_of_mem_places index_mem
  | payments =>
      obtain ⟨-, index, index_mem, ⟨means, means_mem, rfl⟩ | rfl⟩ := Step.mem_pairAll.mp mem
      · obtain ⟨other, other_mem, rfl⟩ := List.mem_map.mp means_mem
        exact ⟨List.mem_range.mp index_mem, List.mem_range.mp other_mem⟩
      · exact List.mem_range.mp index_mem
  | reversals =>
      obtain ⟨inbound, inbound_mem, outbound, outbound_mem, rfl⟩ := Step.mem_reverseAll.mp mem
      obtain ⟨received, received_eq, received_pos⟩ := mem_places.mp inbound_mem
      obtain ⟨made, made_eq, made_neg⟩ := mem_places.mp outbound_mem
      exact ⟨⟨received, received_eq,
          (sound.initial_signs received_eq).1 (of_decide_eq_true received_pos)⟩,
        made, made_eq, (sound.initial_signs made_eq).2 (of_decide_eq_true made_neg)⟩
  | remainders =>
      obtain ⟨index, index_mem, rfl⟩ := List.mem_map.mp mem
      exact List.mem_range.mp index_mem

end Book

/-! ## Runs leave trails -/

namespace History

variable {policy : LeftoverPolicy} {start : Book} {history : History}

/-- A step deals nothing, makes a deal that is accepted, or stops at one that is refused. -/
theorem step_cases (policy : LeftoverPolicy) (history : History) (step : Step) :
    (history.book.deal? policy step = none ∧ history.step policy step = (history, none)) ∨
      (∃ deal, Book.Deals policy history.book step deal ∧ deal.entry.refusal? = none ∧
        history.step policy step = (history.record deal, none)) ∨
      ∃ deal error, Book.Deals policy history.book step deal ∧
        deal.entry.refusal? = some error ∧ history.step policy step = (history, some error) := by
  unfold History.step
  cases deal_eq : history.book.deal? policy step with
  | none => exact .inl ⟨rfl, rfl⟩
  | some deal =>
      have dealt := Book.deal?_eq_some_iff.mp deal_eq
      cases refusal_eq : deal.entry.refusal? with
      | none => exact .inr (.inl ⟨deal, dealt, refusal_eq, by simp [settle, refusal_eq]⟩)
      | some error =>
          exact .inr (.inr ⟨deal, error, dealt, refusal_eq, by simp [settle, refusal_eq]⟩)

theorem trail_step (trail : Trail policy start history) {step : Step}
    (placed : history.book.Placed step) : Trail policy start (history.step policy step).1 := by
  obtain ⟨-, step_eq⟩ | ⟨deal, dealt, accepted, step_eq⟩ | ⟨deal, error, -, -, step_eq⟩ :=
    step_cases policy history step
  · exact step_eq ▸ trail
  · exact step_eq ▸ trail.snoc placed dealt accepted
  · exact step_eq ▸ trail

theorem later_step (sound : history.book.Sound policy) {step : Step}
    (placed : history.book.Placed step) :
    Book.Later policy history.book (history.step policy step).1.book := by
  obtain ⟨-, step_eq⟩ | ⟨deal, dealt, -, step_eq⟩ | ⟨deal, error, -, -, step_eq⟩ :=
    step_cases policy history step
  · exact step_eq ▸ .refl sound
  · exact step_eq ▸ dealt.later sound placed
  · exact step_eq ▸ .refl sound

/-- Well-placed steps leave a later book behind. -/
theorem later_runAll (sound : history.book.Sound policy) {steps : List Step}
    (placed : ∀ step ∈ steps, history.book.Placed step) :
    Book.Later policy history.book (history.runAll policy steps).1.book := by
  induction steps generalizing history with
  | nil => exact .refl sound
  | cons step rest ih =>
      have later := later_step sound (placed step (by simp))
      rw [runAll]
      cases result_eq : history.step policy step with
      | mk stepped error =>
          rw [result_eq] at later
          cases error with
          | some error => exact later
          | none =>
              exact later.trans
                (ih later.sound fun other mem => later.placed (placed other (by simp [mem])))

/-- Well-placed steps leave a trail behind. -/
theorem trail_runAll (sound : start.Sound policy) (trail : Trail policy start history)
    {steps : List Step} (placed : ∀ step ∈ steps, history.book.Placed step) :
    Trail policy start (history.runAll policy steps).1 := by
  induction steps generalizing history with
  | nil => exact trail
  | cons step rest ih =>
      have here := placed step (by simp)
      have next := trail_step trail here
      have later := later_step (trail.later sound).sound here
      rw [runAll]
      cases result_eq : history.step policy step with
      | mk stepped error =>
          rw [result_eq] at next later
          cases error with
          | some error => exact next
          | none => exact ih next fun other mem => later.placed (placed other (by simp [mem]))

/-- The steps of a pass leave a later book behind. -/
theorem later_pass (sound : history.book.Sound policy) (pass : Pass) :
    Book.Later policy history.book
      (history.runAll policy (history.book.steps pass)).1.book :=
  later_runAll sound (Book.placed_steps sound pass)

/-- Passes leave a later book behind. -/
theorem later_runPasses (sound : history.book.Sound policy) (passes : List Pass) :
    Book.Later policy history.book (history.runPasses policy passes).1.book := by
  induction passes generalizing history with
  | nil => exact .refl sound
  | cons pass rest ih =>
      have later := later_pass sound pass
      rw [runPasses]
      cases result_eq : history.runAll policy (history.book.steps pass) with
      | mk passed error =>
          rw [result_eq] at later
          cases error with
          | some error => exact later
          | none => exact later.trans (ih later.sound)

/-- Passes leave a trail behind. -/
theorem trail_runPasses (sound : start.Sound policy) (trail : Trail policy start history)
    (passes : List Pass) : Trail policy start (history.runPasses policy passes).1 := by
  induction passes generalizing history with
  | nil => exact trail
  | cons pass rest ih =>
      have here := trail_runAll sound trail (Book.placed_steps (trail.later sound).sound pass)
      rw [runPasses]
      cases result_eq : history.runAll policy (history.book.steps pass) with
      | mk passed error =>
          rw [result_eq] at here
          cases error with
          | some error => exact here
          | none => exact ih here

end History

/-- A settlement leaves a trail that starts from the book it was given. -/
theorem Book.trail_settle {settings : Settings} {book : Book}
    (sound : book.Sound settings.leftover) :
    Trail settings.leftover book (book.settle settings).1 := by
  unfold settle
  split
  · exact .nil
  · exact History.trail_runPasses sound .nil settings.passes

end Settlement
