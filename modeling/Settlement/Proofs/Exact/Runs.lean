import Settlement.Proofs.Exact.Acceptance
import Settlement.Proofs.Exact.Exhaustion

/-!
# What a run pays and what it waives

Between two books of a settlement, what has been paid of a debt is a part of what was left of it,
and only the leftover step of a debt waives the rest.  A pass that pairs payables with payments
either pays a debt in full or uses up all documents that could have paid more.
-/

namespace Settlement

namespace History

variable {policy : LeftoverPolicy} {history : History}

theorem runAll_append (first rest : List Step) (history : History) :
    history.runAll policy (first ++ rest) =
      proceed (history.runAll policy first) (runAll policy rest) := by
  induction first generalizing history with
  | nil => rfl
  | cons step first ih =>
      rw [List.cons_append, runAll, runAll]
      rcases history.step policy step with ⟨stepped, _ | error⟩
      · exact ih stepped
      · rfl

/-- A run that comes to its end has come to the end of its first part. -/
theorem ended_append {first rest : List Step}
    (ended : (history.runAll policy (first ++ rest)).2 = none) :
    (history.runAll policy first).2 = none ∧
      history.runAll policy (first ++ rest) =
        (history.runAll policy first).1.runAll policy rest := by
  rw [runAll_append] at ended ⊢
  exact proceed_ended ended

/-- The steps after a first part stay well placed in the book that it leaves. -/
theorem placed_append {first rest : List Step} (sound : history.book.Sound policy)
    (placed : ∀ step ∈ first ++ rest, history.book.Placed step) :
    (∀ step ∈ first, history.book.Placed step) ∧
      Book.Later policy history.book (history.runAll policy first).1.book ∧
        ∀ step ∈ rest, (history.runAll policy first).1.book.Placed step := by
  have first_placed : ∀ step ∈ first, history.book.Placed step :=
    fun step mem => placed step (List.mem_append_left rest mem)
  have later := later_runAll sound first_placed
  exact ⟨first_placed, later, fun step mem =>
    later.placed (placed step (List.mem_append_right first mem))⟩

/-- What every deal of well-placed steps keeps holds after a run of them. -/
theorem runAll_induction {motive : History → Prop} {steps : List Step}
    (sound : history.book.Sound policy) (placed : ∀ step ∈ steps, history.book.Placed step)
    (start : motive history)
    (record : ∀ (reached : History) (step : Step) (deal : Deal), step ∈ steps →
      reached.book.Sound policy → reached.book.Placed step →
        Book.Deals policy reached.book step deal → motive reached →
          motive (reached.record deal)) :
    motive (history.runAll policy steps).1 := by
  induction steps generalizing history with
  | nil => exact start
  | cons step rest ih =>
      have here := placed step (by simp)
      have later := later_step sound here
      have next : motive (history.step policy step).1 := by
        obtain ⟨-, step_eq⟩ | ⟨deal, dealt, -, step_eq⟩ | ⟨deal, error, -, -, step_eq⟩ :=
          step_cases policy history step
        · exact step_eq ▸ start
        · exact step_eq ▸ record history step deal (by simp) sound here dealt start
        · exact step_eq ▸ start
      rw [runAll]
      generalize history.step policy step = advance at later next ⊢
      rcases advance with ⟨stepped, _ | error⟩
      · apply ih later.sound (fun other mem => later.placed (placed other (by simp [mem]))) next
        exact fun reached other deal mem => record reached other deal (by simp [mem])
      · exact next

end History

/-! ## One deal -/

/-- A part of what was left of a debt has been paid, and no more than the rest is still left. -/
structure Debt.Pays (before after : Debt) : Prop where
  paid : Within (after.allocated.pay - before.allocated.pay) before.remaining.pay
  left : Within after.remaining.pay
    (before.remaining.pay - (after.allocated.pay - before.allocated.pay))

theorem Debt.Pays.refl (debt : Debt) : debt.Pays debt where
  paid := by
    rw [sub_self]
    exact within_zero _
  left := by
    rw [sub_self, sub_zero]
    exact Within.refl _

theorem Debt.Pays.trans {first second third : Debt} (early : first.Pays second)
    (late : second.Pays third) : first.Pays third := by
  obtain ⟨early_paid, early_left⟩ := early
  obtain ⟨late_paid, late_left⟩ := late
  unfold Within at *
  constructor
  · unfold Within
    omega
  · unfold Within
    omega

namespace Book

variable {policy : LeftoverPolicy} {book : Book}

theorem waived_charge (index : Nat) (parts : Parts) {place : Nat} {debt found : Debt}
    (debt_eq : book.debts[place]? = some debt)
    (found_eq : (book.charge index parts).debts[place]? = some found) :
    found.waived = debt.waived := by
  rw [getElem?_charge index parts debt_eq, Option.some.injEq] at found_eq
  subst found_eq
  split
  · exact Debt.waived_charge parts
  · rfl

/-- Only the leftover step of a debt waives anything of it. -/
theorem Deals.waived_eq {step : Step} {deal : Deal} (dealt : Deals policy book step deal)
    {place : Nat} {debt found : Debt} (debt_eq : book.debts[place]? = some debt)
    (found_eq : deal.after.debts[place]? = some found) (elsewhere : step ≠ .leftover place) :
    found.waived = debt.waived := by
  cases dealt with
  | pair payee_eq source_eq debt_open source_open fits =>
      rename_i kind index means payee source
      have charged := getElem?_charge index (offer payee source) debt_eq
      have kept := waived_charge index _ debt_eq charged
      cases means with
      | payment other =>
          obtain rfl := Option.some.inj (charged.symm.trans found_eq)
          exact kept
      | creditMemo other => exact (waived_charge other _ charged found_eq).trans kept
      | purchaseInvoice other => exact (waived_charge other _ charged found_eq).trans kept
  | leftover payee_eq debt_open moves =>
      rename_i index payee
      have other : index ≠ place := fun same => elsewhere (same ▸ rfl)
      have moved : (book.changeDebt index (·.move policy)).debts[place]? = some debt :=
        (List.getElem?_modify_ne _ _ other).trans debt_eq
      exact waived_charge index _ moved found_eq
  | reverse received_eq made_eq received_open made_open currency_eq =>
      obtain rfl := Option.some.inj (debt_eq.symm.trans found_eq)
      rfl
  | remainder payee_eq carries => exact waived_charge _ _ debt_eq found_eq

/-- The leftover step of a debt pays nothing and leaves nothing. -/
theorem Deals.leftover_paid {place : Nat} {deal : Deal}
    (dealt : Deals policy book (.leftover place) deal) {debt found : Debt}
    (debt_eq : book.debts[place]? = some debt)
    (found_eq : deal.after.debts[place]? = some found) :
    found.allocated.pay = debt.allocated.pay ∧ found.remaining.pay = 0 := by
  cases dealt with
  | leftover payee_eq debt_open moves =>
      obtain rfl := Option.some.inj (debt_eq.symm.trans payee_eq)
      have moved := getElem?_changeDebt_self (·.move policy) debt_eq
      have charged := getElem?_changeDebt_self (·.charge (debt.move policy).remaining) moved
      obtain rfl := Option.some.inj (charged.symm.trans found_eq)
      have nothing : (debt.move policy).remaining.pay = 0 := by
        cases policy with
        | leaveOpen => exact absurd rfl moves
        | discount => rfl
        | writeOff => rfl
      constructor
      · simp [nothing]
      · simp

theorem Deals.pays (sound : book.Sound policy) {step : Step} {deal : Deal}
    (dealt : Deals policy book step deal) (placed : book.Placed step) {place : Nat}
    {debt found : Debt} (debt_eq : book.debts[place]? = some debt)
    (found_eq : deal.after.debts[place]? = some found) : debt.Pays found := by
  by_cases here : step = .leftover place
  · subst here
    obtain ⟨same, nothing⟩ := dealt.leftover_paid debt_eq found_eq
    constructor
    · rw [same, sub_self]
      exact within_zero _
    · rw [nothing]
      exact within_zero _
  · have later := forall₂_at (dealt.later sound placed).debts debt_eq found_eq
    have kept := dealt.waived_eq debt_eq found_eq here
    have within := later.pay
    simp only [Debt.waived, later.terms_eq] at kept
    have paid_eq : found.allocated.pay - debt.allocated.pay =
        debt.remaining.pay - found.remaining.pay := by omega
    constructor
    · rw [paid_eq]
      exact within.sub
    · rw [paid_eq, sub_sub_cancel]
      exact Within.refl _

end Book

/-! ## Runs -/

namespace History

variable {policy : LeftoverPolicy} {history : History} {steps : List Step}
  (sound : history.book.Sound policy) (placed : ∀ step ∈ steps, history.book.Placed step)

include sound placed

theorem runAll_pays {place : Nat} {debt found : Debt}
    (debt_eq : history.book.debts[place]? = some debt)
    (found_eq : (history.runAll policy steps).1.book.debts[place]? = some found) :
    debt.Pays found := by
  have kept := runAll_induction sound placed
    (motive := fun reached => ∀ found, reached.book.debts[place]? = some found → debt.Pays found)
    ?_ ?_
  · exact kept found found_eq
  · intro same same_eq
    obtain rfl := Option.some.inj (debt_eq.symm.trans same_eq)
    exact .refl debt
  · intro reached step deal _ reached_sound here dealt ih after after_eq
    obtain ⟨middle, middle_eq, -⟩ :=
      forall₂_getElem?_right (dealt.later reached_sound here).debts after_eq
    exact (ih middle middle_eq).trans (dealt.pays reached_sound here middle_eq after_eq)

theorem runAll_waived {place : Nat} {debt found : Debt}
    (debt_eq : history.book.debts[place]? = some debt)
    (found_eq : (history.runAll policy steps).1.book.debts[place]? = some found)
    (elsewhere : .leftover place ∉ steps) : found.waived = debt.waived := by
  have kept := runAll_induction sound placed
    (motive := fun reached => ∀ found, reached.book.debts[place]? = some found →
      found.waived = debt.waived) ?_ ?_
  · exact kept found found_eq
  · intro same same_eq
    obtain rfl := Option.some.inj (debt_eq.symm.trans same_eq)
    rfl
  · intro reached step deal mem reached_sound here dealt ih after after_eq
    obtain ⟨middle, middle_eq, -⟩ :=
      forall₂_getElem?_right (dealt.later reached_sound here).debts after_eq
    have other : step ≠ .leftover place := fun same => elsewhere (same ▸ mem)
    exact (dealt.waived_eq middle_eq after_eq other).trans (ih middle middle_eq)

end History

/-! ## Pairings -/

theorem Step.pairAll_cons (kind : CandidateKind) (first : Nat) (rest : List Nat)
    {payers : List Means} (some_payers : payers ≠ []) :
    pairAll kind (first :: rest) payers =
      payers.map (pair kind first) ++ [leftover first] ++ pairAll kind rest payers := by
  have filled : ¬payers.isEmpty = true := by rwa [List.isEmpty_iff]
  rw [pairAll, pairAll, if_neg filled, if_neg filled, List.flatMap_cons]

namespace History

variable {policy : LeftoverPolicy} {history : History} {kind : CandidateKind}
  {payers : List Means}

/-- Once a debt has been paired with all payers, it is paid in full or those that fit it are used
up, whatever follows. -/
theorem paid_or_used_of_pairs (sound : history.book.Sound policy) {index : Nat}
    {rest : List Step}
    (placed : ∀ step ∈ payers.map (.pair kind index) ++ rest, history.book.Placed step)
    (ended : (history.runAll policy (payers.map (.pair kind index) ++ rest)).2 = none)
    {means : Means} (means_mem : means ∈ payers) {debt found : Debt} {source spent : Source}
    (debt_eq : history.book.debts[index]? = some debt)
    (source_eq : history.book.source? means = some source) (fits : source.Fits debt)
    (found_eq : (history.runAll policy (payers.map (.pair kind index) ++ rest)).1.book.debts[index]?
      = some found)
    (spent_eq : (history.runAll policy (payers.map (.pair kind index) ++ rest)).1.book.source? means
      = some spent) :
    found.allocated.pay = debt.allocated.pay + debt.remaining.pay ∨ spent.remaining = 0 := by
  obtain ⟨pairs_ended, split⟩ := ended_append ended
  rw [split] at found_eq spent_eq
  obtain ⟨pairs_placed, paired, rest_placed⟩ := placed_append sound placed
  have later := later_runAll paired.sound rest_placed
  obtain ⟨half, half_eq, grown⟩ := forall₂_getElem? paired.debts debt_eq
  obtain ⟨middle, middle_eq, spent_later⟩ := later.source_before spent_eq
  obtain ⟨given, given_eq, middle_later⟩ := paired.source_before middle_eq
  obtain rfl := Option.some.inj (source_eq.symm.trans given_eq)
  have settled := runAll_settles sound pairs_placed pairs_ended _ (List.mem_map_of_mem means_mem)
  have closed := (Book.settled_pair_iff half_eq middle_eq).mp settled
  by_cases still_open : middle.IsOpen
  · left
    have nothing_left : half.remaining.pay = 0 :=
      by_contra fun half_open =>
        closed ⟨half_open, still_open, (middle_later.fits_iff grown.terms_eq).mpr fits⟩
    have waived := runAll_waived sound pairs_placed debt_eq half_eq (by simp)
    have paid := (runAll_pays paired.sound rest_placed half_eq found_eq).paid
    rw [nothing_left] at paid
    have still := paid.eq_zero
    simp only [Debt.waived, grown.terms_eq] at waived
    omega
  · right
    have used : middle.remaining = 0 := not_not.mp still_open
    exact (used ▸ spent_later.remaining_within).eq_zero

/-- A pass of pairings pays a debt in full or uses up every document that fits it. -/
theorem paid_or_used (sound : history.book.Sound policy) {payees : List Nat}
    (placed : ∀ step ∈ Step.pairAll kind payees payers, history.book.Placed step)
    (ended : (history.runAll policy (Step.pairAll kind payees payers)).2 = none) {index : Nat}
    (index_mem : index ∈ payees) {means : Means} (means_mem : means ∈ payers)
    {debt found : Debt} {source spent : Source}
    (debt_eq : history.book.debts[index]? = some debt)
    (source_eq : history.book.source? means = some source) (fits : source.Fits debt)
    (found_eq : (history.runAll policy (Step.pairAll kind payees payers)).1.book.debts[index]? =
      some found)
    (spent_eq : (history.runAll policy (Step.pairAll kind payees payers)).1.book.source? means =
      some spent) :
    found.allocated.pay = debt.allocated.pay + debt.remaining.pay ∨ spent.remaining = 0 := by
  induction payees generalizing history debt source with
  | nil => cases index_mem
  | cons first rest ih =>
      have steps_eq := Step.pairAll_cons kind first rest (List.ne_nil_of_mem means_mem)
      rw [steps_eq] at placed ended found_eq spent_eq
      by_cases here : index = first
      · subst here
        rw [List.append_assoc] at placed ended found_eq spent_eq
        exact paid_or_used_of_pairs sound placed ended means_mem debt_eq source_eq fits found_eq
          spent_eq
      obtain ⟨-, split⟩ := ended_append ended
      rw [split] at ended found_eq spent_eq
      obtain ⟨block_placed, later, rest_placed⟩ := placed_append sound placed
      have rest_mem : index ∈ rest := (List.mem_cons.mp index_mem).resolve_left here
      have after := later_runAll later.sound rest_placed
      obtain ⟨next, next_eq, grown⟩ := forall₂_getElem? later.debts debt_eq
      obtain ⟨given, given_eq, -⟩ := after.source_before spent_eq
      obtain ⟨before, before_eq, given_later⟩ := later.source_before given_eq
      obtain rfl := Option.some.inj (source_eq.symm.trans before_eq)
      -- The block of another debt waives nothing of this one.
      have waived := runAll_waived sound block_placed debt_eq next_eq (by simp [here])
      simp only [Debt.waived, grown.terms_eq] at waived
      rcases ih later.sound rest_placed ended rest_mem next_eq given_eq
        ((given_later.fits_iff grown.terms_eq).mpr fits) found_eq spent_eq with paid | used
      · left
        omega
      · exact .inr used

/-- Where leftovers are dealt with, a pass of pairings leaves nothing of its debts, unless there
are no payers at all. -/
theorem closed_of_leftover (sound : history.book.Sound policy) {payees : List Nat}
    (placed : ∀ step ∈ Step.pairAll kind payees payers, history.book.Placed step)
    (ended : (history.runAll policy (Step.pairAll kind payees payers)).2 = none)
    (moves : policy ≠ .leaveOpen) (some_payers : payers ≠ []) {index : Nat}
    (index_mem : index ∈ payees) {found : Debt}
    (found_eq : (history.runAll policy (Step.pairAll kind payees payers)).1.book.debts[index]? =
      some found) : found.remaining.pay = 0 := by
  have mem : Step.leftover index ∈ Step.pairAll kind payees payers :=
    Step.mem_pairAll.mpr ⟨some_payers, index, index_mem, .inr rfl⟩
  have settled := runAll_settles sound placed ended _ mem
  by_contra still_open
  exact (Book.settled_leftover_iff found_eq).mp settled ⟨still_open, moves⟩

end History

end Settlement
