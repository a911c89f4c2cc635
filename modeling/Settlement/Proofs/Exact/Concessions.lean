import Settlement.Proofs.Exact.Contributions
import Settlement.Proofs.Exact.Exchanges
import Settlement.Proofs.Exact.Moves

/-!
# Moves that concede something of a debt

A move without a payment concedes something of a debt: what the policy takes off it, or the
discount and the write-off that it still carries.  The first leaves nothing of the debt at all, and
the second no discount and no write-off.  As the passes come, nothing is taken off a debt any more
once discounts and write-offs are granted by themselves, so no debt is conceded to twice.
-/

namespace Settlement

/-- A move concedes something of the debt at a place. -/
structure Move.Concedes (move : Move) (place : Nat) : Prop where
  kind_eq : move.deal.entry.kind = .invoiceDiscountOrWriteOff
  changes : ∃ debt found, move.before.debts[place]? = some debt ∧
    move.deal.after.debts[place]? = some found ∧ debt.reference = move.deal.entry.payable ∧
    found.remaining ≠ debt.remaining

namespace Book

/-- Nothing is left of the debt at a place. -/
def Cleared (place : Nat) (book : Book) : Prop :=
  ∀ debt, book.debts[place]? = some debt → debt.remaining = 0

/-- Nothing is left of the discount and the write-off of the debt at a place. -/
def ExtrasGone (place : Nat) (book : Book) : Prop :=
  ∀ debt, book.debts[place]? = some debt →
    debt.remaining.discount = 0 ∧ debt.remaining.writeOff = 0

variable {policy : LeftoverPolicy} {place : Nat} {before book after : Book}

theorem Cleared.extrasGone (cleared : book.Cleared place) : book.ExtrasGone place := by
  intro debt debt_eq
  rw [cleared debt debt_eq]
  exact ⟨rfl, rfl⟩

theorem ExtrasGone.later (later : Later policy before after) (gone : before.ExtrasGone place) :
    after.ExtrasGone place := by
  intro debt debt_eq
  obtain ⟨given, given_eq, step⟩ := forall₂_getElem?_right later.debts debt_eq
  obtain ⟨discount, writeOff⟩ := gone given given_eq
  have discount_later := step.discount
  have writeOff_later := step.writeOff
  rw [discount, or_self] at discount_later
  rw [writeOff, or_self] at writeOff_later
  exact ⟨discount_later, writeOff_later⟩

theorem Cleared.later (later : Later policy before after) (cleared : before.Cleared place) :
    after.Cleared place := by
  intro debt debt_eq
  obtain ⟨given, given_eq, step⟩ := forall₂_getElem?_right later.debts debt_eq
  have nothing := cleared given given_eq
  obtain ⟨discount, writeOff⟩ := cleared.extrasGone.later later debt debt_eq
  have pay := step.pay
  rw [nothing] at pay
  exact Parts.ext pay.eq_zero discount writeOff

/-! ## One concession -/

variable {step : Step} {deal : Deal}

/-- What is moved and charged at a place changes the debt there and no other. -/
theorem getElem?_charge_move (policy : LeftoverPolicy) (index : Nat) (parts : Parts) {debt : Debt}
    (debt_eq : book.debts[place]? = some debt) :
    ((book.changeDebt index (·.move policy)).charge index parts).debts[place]? =
      some (if index = place then (debt.move policy).charge parts else debt) := by
  rw [getElem?_charge index parts (getElem?_changeDebt index (·.move policy) debt_eq)]
  split_ifs <;> rfl

theorem Deals.cleared {index : Nat} (dealt : Deals policy book (.leftover index) deal) :
    deal.after.Cleared index := by
  cases dealt with
  | leftover debt_eq debt_open moves =>
      rename_i debt
      have charged := getElem?_charge_move policy index (debt.move policy).remaining debt_eq
      rw [if_pos rfl] at charged
      intro found found_eq
      obtain rfl := Option.some.inj (charged.symm.trans found_eq)
      exact sub_self (debt.move policy).remaining

theorem Deals.extrasGone {index : Nat} (dealt : Deals policy book (.remainder index) deal) :
    deal.after.ExtrasGone index := by
  cases dealt with
  | remainder debt_eq carries =>
      rename_i debt
      have charged := getElem?_changeDebt_self (·.charge { debt.remaining with pay := 0 }) debt_eq
      intro found found_eq
      obtain rfl := Option.some.inj (charged.symm.trans found_eq)
      exact ⟨sub_self debt.remaining.discount, sub_self debt.remaining.writeOff⟩

theorem Deals.not_cleared {index : Nat} (dealt : Deals policy book (.leftover index) deal) :
    ¬book.Cleared index := by
  intro cleared
  cases dealt with
  | leftover debt_eq debt_open moves =>
      exact debt_open (congrArg Parts.pay (cleared _ debt_eq))

theorem Deals.not_extrasGone {index : Nat} (dealt : Deals policy book (.remainder index) deal) :
    ¬book.ExtrasGone index := by
  intro gone
  cases dealt with
  | remainder debt_eq carries => exact carries ((extras_eq_zero_iff _).mpr (gone _ debt_eq))

/-- A well-placed step that pairs or reverses names a kind of its own. -/
theorem Placed.concession_cases (placed : book.Placed step)
    (kind_eq : step.kind = .invoiceDiscountOrWriteOff) :
    ∃ index, step = .leftover index ∨ step = .remainder index := by
  cases step with
  | pair kind index means =>
      have pairing : kind = .invoiceDiscountOrWriteOff := kind_eq
      have own := Serves.kind_eq placed
      rw [pairing] at own
      cases means <;> cases own
  | leftover index => exact ⟨index, .inl rfl⟩
  | reverse inbound outbound => cases kind_eq
  | remainder index => exact ⟨index, .inr rfl⟩

theorem Deals.step_of_concedes (dealt : Deals policy book step deal) (placed : book.Placed step)
    (concedes : Move.Concedes ⟨book, deal⟩ place) :
    step = .leftover place ∨ step = .remainder place := by
  obtain ⟨index, which⟩ := placed.concession_cases (dealt.kind_eq.symm.trans concedes.kind_eq)
  obtain ⟨debt, found, debt_eq, found_eq, -, changed⟩ := concedes.changes
  suffices same : index = place by rwa [same] at which
  by_contra other
  rcases which with rfl | rfl
  · cases dealt with
    | leftover payee_eq debt_open moves =>
        have charged := (getElem?_charge_move policy index _ debt_eq).symm.trans found_eq
        rw [if_neg other] at charged
        exact changed (congrArg Debt.remaining (Option.some.inj charged).symm)
  · cases dealt with
    | remainder payee_eq carries =>
        have charged := (getElem?_charge index _ debt_eq).symm.trans found_eq
        rw [if_neg other] at charged
        exact changed (congrArg Debt.remaining (Option.some.inj charged).symm)

/-- Every deal of the kind concedes something of a debt. -/
theorem Deals.concedes (dealt : Deals policy book step deal) (placed : book.Placed step)
    (kind_eq : deal.entry.kind = .invoiceDiscountOrWriteOff) :
    ∃ place, Move.Concedes ⟨book, deal⟩ place := by
  obtain ⟨index, rfl | rfl⟩ := placed.concession_cases (dealt.kind_eq.symm.trans kind_eq)
  · have cleared := dealt.cleared
    cases dealt with
    | leftover debt_eq debt_open moves =>
        rename_i debt
        have charged := getElem?_charge_move policy index (debt.move policy).remaining debt_eq
        rw [if_pos rfl] at charged
        refine ⟨index, kind_eq, debt, _, debt_eq, charged, ?_, ?_⟩
        · exact congrArg Debt.Terms.reference (Debt.terms_move policy debt).symm
        · exact fun same => debt_open (congrArg Parts.pay (same.symm.trans (cleared _ charged)))
  · have gone := dealt.extrasGone
    cases dealt with
    | remainder debt_eq carries =>
        rename_i debt
        have charged := getElem?_changeDebt_self (·.charge { debt.remaining with pay := 0 }) debt_eq
        refine ⟨index, kind_eq, debt, _, debt_eq, charged, rfl, fun same => carries ?_⟩
        obtain ⟨discount, writeOff⟩ := gone _ charged
        rw [same] at discount writeOff
        exact (extras_eq_zero_iff _).mpr ⟨discount, writeOff⟩

end Book

theorem Move.Made.concedes {policy : LeftoverPolicy} {start : Book} {move : Move}
    (made : move.Made policy start)
    (kind_eq : move.deal.entry.kind = .invoiceDiscountOrWriteOff) :
    ∃ place, move.Concedes place := by
  obtain ⟨step, placed, dealt⟩ := made.step
  exact dealt.concedes placed kind_eq

/-- A move concedes to a debt that has had the reference of its entry since the start. -/
theorem Move.Concedes.reference_eq {policy : LeftoverPolicy} {start : Book} {move : Move}
    {place : Nat} (concedes : move.Concedes place) (made : move.Made policy start) :
    ∃ debt, start.debts[place]? = some debt ∧ debt.reference = move.deal.entry.payable := by
  obtain ⟨debt, found, debt_eq, -, reference_eq, -⟩ := concedes.changes
  obtain ⟨given, given_eq, step⟩ := forall₂_getElem?_right made.later.debts debt_eq
  refine ⟨given, given_eq, ?_⟩
  exact (congrArg Debt.Terms.reference step.terms_eq).symm.trans reference_eq

/-! ## At most one concession to a debt -/

/-- No debt of a history is conceded to twice, and every debt that is conceded to is closed in the
book that the history leads to. -/
structure History.ConcededOnce (closed : Nat → Book → Prop) (start : Book) (history : History) :
    Prop where
  reached : history.Reached start
  once : (history.moves start).Pairwise fun first second =>
    ∀ place, first.Concedes place → ¬second.Concedes place
  kept : ∀ move ∈ history.moves start, ∀ place, move.Concedes place → closed place history.book

/-- Every deal of the steps that concedes to a debt closes one that has not been closed, and what
is closed stays so. -/
structure Step.Closing (policy : LeftoverPolicy) (closed : Nat → Book → Prop)
    (steps : List Step) : Prop where
  stays : ∀ place before after, Book.Later policy before after → closed place before →
    closed place after
  closes : ∀ step ∈ steps, ∀ book deal, book.Placed step → Book.Deals policy book step deal →
    ∀ place, Move.Concedes ⟨book, deal⟩ place → ¬closed place book ∧ closed place deal.after

namespace Step

variable {policy : LeftoverPolicy} {steps : List Step}

/-- Steps before the last pass clear the debts that they concede to. -/
theorem closing_cleared (early : ∀ step ∈ steps, ∀ index, step ≠ .remainder index) :
    Closing policy Book.Cleared steps where
  stays _ _ _ := Book.Cleared.later
  closes step mem book deal placed dealt place concedes := by
    rcases dealt.step_of_concedes placed concedes with rfl | rfl
    · exact ⟨dealt.not_cleared, dealt.cleared⟩
    · exact absurd rfl (early _ mem place)

/-- The steps of the last pass leave no discount and no write-off. -/
theorem closing_extrasGone (late : ∀ step ∈ steps, ∃ index, step = .remainder index) :
    Closing policy Book.ExtrasGone steps where
  stays _ _ _ := Book.ExtrasGone.later
  closes step mem book deal placed dealt place concedes := by
    obtain ⟨index, rfl⟩ := late step mem
    rcases dealt.step_of_concedes placed concedes with other | same
    · cases other
    · cases same
      exact ⟨dealt.not_extrasGone, dealt.extrasGone⟩

end Step

namespace Book

theorem remainder_notMem_steps {pass : Pass} (other : pass ≠ .remainders) (book : Book) :
    ∀ step ∈ book.steps pass, ∀ index, step ≠ .remainder index := by
  intro step mem index
  cases pass with
  | creditMemos =>
      obtain ⟨-, place, -, ⟨means, -, rfl⟩ | rfl⟩ := Step.mem_pairAll.mp mem <;> simp
  | compensation =>
      obtain ⟨-, place, -, ⟨means, -, rfl⟩ | rfl⟩ := Step.mem_pairAll.mp mem <;> simp
  | payments =>
      obtain ⟨-, place, -, ⟨means, -, rfl⟩ | rfl⟩ := Step.mem_pairAll.mp mem <;> simp
  | reversals =>
      obtain ⟨inbound, -, outbound, -, rfl⟩ := Step.mem_reverseAll.mp mem
      simp
  | remainders => exact absurd rfl other

end Book

namespace History

variable {policy : LeftoverPolicy} {closed : Nat → Book → Prop} {start : Book} {history : History}

theorem ConcededOnce.nil (closed : Nat → Book → Prop) (book : Book) :
    ConcededOnce closed book { book } :=
  ⟨rfl, .nil, by simp [moves, Deal.moves]⟩

/-- Where no reference stands for two debts, no two concessions name one. -/
theorem ConcededOnce.payable_ne (conceded : ConcededOnce closed start history)
    (made : ∀ move ∈ history.moves start, move.Made policy start) (distinct : start.Distinct) :
    (history.moves start).Pairwise fun first second =>
      first.deal.entry.kind = .invoiceDiscountOrWriteOff →
        second.deal.entry.kind = .invoiceDiscountOrWriteOff →
          first.deal.entry.payable ≠ second.deal.entry.payable := by
  refine conceded.once.imp_of_mem fun first_mem second_mem apart first_kind second_kind same => ?_
  rename_i first second
  have first_made := made first first_mem
  have second_made := made second second_mem
  obtain ⟨place, concedes⟩ := first_made.concedes first_kind
  obtain ⟨other, concedes_too⟩ := second_made.concedes second_kind
  obtain ⟨debt, debt_eq, debt_reference⟩ := concedes.reference_eq first_made
  obtain ⟨found, found_eq, found_reference⟩ := concedes_too.reference_eq second_made
  obtain rfl := (distinct.debt_place debt_eq found_eq).mp
    (debt_reference.trans (same.trans found_reference.symm))
  exact apart place concedes concedes_too

theorem ConcededOnce.weaken {closed' : Nat → Book → Prop}
    (conceded : ConcededOnce closed start history)
    (weaker : ∀ place, closed place history.book → closed' place history.book) :
    ConcededOnce closed' start history where
  reached := conceded.reached
  once := conceded.once
  kept move mem place concedes := weaker place (conceded.kept move mem place concedes)

/-- One more deal concedes to no debt that has been conceded to before. -/
theorem ConcededOnce.record (conceded : ConcededOnce closed start history) {deal : Deal}
    (stays : ∀ place, closed place history.book → closed place deal.after)
    (closes : ∀ place, Move.Concedes ⟨history.book, deal⟩ place →
      ¬closed place history.book ∧ closed place deal.after) :
    ConcededOnce closed start (history.record deal) where
  reached := reached_record start history deal
  once := by
    rw [moves_record conceded.reached, List.pairwise_append]
    refine ⟨conceded.once, List.pairwise_singleton _ _, ?_⟩
    intro move mem last last_mem place concedes again
    rw [List.mem_singleton.mp last_mem] at again
    exact (closes place again).1 (conceded.kept move mem place concedes)
  kept := by
    intro move mem place concedes
    rw [moves_record conceded.reached, List.mem_append, List.mem_singleton] at mem
    rcases mem with earlier | rfl
    · exact stays place (conceded.kept move earlier place concedes)
    · exact (closes place concedes).2

theorem ConcededOnce.runAll (conceded : ConcededOnce closed start history) {steps : List Step}
    (closing : Step.Closing policy closed steps) (sound : history.book.Sound policy)
    (placed : ∀ step ∈ steps, history.book.Placed step) :
    ConcededOnce closed start (history.runAll policy steps).1 := by
  apply runAll_induction sound placed (motive := ConcededOnce closed start) conceded
  intro reached step deal mem reached_sound here dealt ih
  have later := dealt.later reached_sound here
  exact ih.record (fun place => closing.stays place _ _ later)
    (closing.closes step mem reached.book deal here dealt)

/-- Passes that end with the one that grants discounts and write-offs by themselves concede to no
debt twice. -/
theorem ConcededOnce.runPasses (conceded : ConcededOnce Book.Cleared start history)
    (sound : history.book.Sound policy) {passes : List Pass} (early : .remainders ∉ passes) :
    ConcededOnce Book.ExtrasGone start
      (history.runPasses policy (passes ++ [.remainders])).1 := by
  induction passes generalizing history with
  | nil =>
      have late : ∀ step ∈ history.book.steps .remainders, ∃ index, step = .remainder index := by
        intro step mem
        obtain ⟨index, -, rfl⟩ := List.mem_map.mp mem
        exact ⟨index, rfl⟩
      have last := (conceded.weaken fun _ => Book.Cleared.extrasGone).runAll
        (Step.closing_extrasGone late) sound (Book.placed_steps sound .remainders)
      rw [List.nil_append, History.runPasses]
      generalize history.runAll policy (history.book.steps .remainders) = advance at last ⊢
      rcases advance with ⟨passed, _ | error⟩ <;> exact last
  | cons pass rest ih =>
      rw [List.mem_cons, not_or] at early
      have later := later_pass sound pass
      have next := conceded.runAll
        (Step.closing_cleared (history.book.remainder_notMem_steps (Ne.symm early.1))) sound
        (Book.placed_steps sound pass)
      rw [List.cons_append, History.runPasses]
      generalize history.runAll policy (history.book.steps pass) = advance at later next ⊢
      rcases advance with ⟨passed, _ | error⟩
      · exact ih next later.sound early.2
      · exact next.weaken fun _ => Book.Cleared.extrasGone

end History

/-- A settlement concedes to no debt twice. -/
theorem Book.settle_concededOnce {settings : Settings} {book : Book}
    (sound : book.Sound settings.leftover) :
    ((book.settle settings).1).ConcededOnce Book.ExtrasGone book := by
  unfold settle
  split
  · exact .nil _ _
  · have passes_eq : settings.passes =
        ([.creditMemos] ++ (if settings.compensation then [.compensation] else []) ++
          [.payments, .reversals]) ++ [.remainders] := by
      simp [Settings.passes]
    rw [passes_eq]
    refine (History.ConcededOnce.nil Book.Cleared book).runPasses sound ?_
    split_ifs <;> decide

end Settlement
