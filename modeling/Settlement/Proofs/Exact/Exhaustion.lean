import Settlement.Proofs.Exact.Trail

/-!
# Settled steps

A step is settled in a book that it deals nothing in.  Every deal uses up one of its sides and so
settles its step, and what is settled stays settled while the book becomes later.  The book that
a settlement ends with is therefore one in which nothing is left to deal.
-/

namespace Settlement

/-! ## Sources -/

namespace Source

variable {policy : LeftoverPolicy} {before after : Source}

/-- A document that acts as a payment, after some more deals. -/
inductive Later (policy : LeftoverPolicy) : Source → Source → Prop where
  | fund {before after : Fund} (later : Fund.Later before after) :
      Later policy (.fund before) (.fund after)
  | creditMemo {before after : Debt} (later : Debt.Later policy before after) :
      Later policy (.creditMemo before) (.creditMemo after)
  | purchaseInvoice {before after : Debt} (later : Debt.Later policy before after) :
      Later policy (.purchaseInvoice before) (.purchaseInvoice after)

theorem Later.remaining_within (later : Later policy before after) :
    Within after.remaining before.remaining := by
  cases later with
  | fund later => exact later.remaining
  | creditMemo later => exact later.pay.neg
  | purchaseInvoice later => exact later.pay.neg

/-- Whether a document fits a debt is decided by what both say. -/
theorem Later.fits_iff (later : Later policy before after) {debt found : Debt}
    (terms_eq : found.toTerms = debt.toTerms) : after.Fits found ↔ before.Fits debt := by
  cases later with
  | fund later => simp only [Fits, CanPay, initial, terms_eq, later.terms_eq]
  | creditMemo later => simp only [Fits, CanPay, initial, terms_eq, later.terms_eq]
  | purchaseInvoice later => simp only [Fits, CanPay, initial, terms_eq, later.terms_eq]

@[simp]
theorem remaining_draw (source : Source) (amount : Int) :
    (source.draw amount).remaining = source.remaining - amount := by
  cases source with
  | fund fund => rfl
  | creditMemo debt =>
      simp only [draw, remaining, Debt.remaining_charge, Parts.pay_sub, Parts.pay_ofPay]
      omega
  | purchaseInvoice debt =>
      simp only [draw, remaining, Debt.remaining_charge, Parts.pay_sub, Parts.pay_ofPay]
      omega

/-- The share that a document takes uses up what one side has left. -/
theorem share_exhausts {source : Source} {debt : Debt}
    (debt_within : Within debt.remaining.pay debt.initial.pay)
    (source_within : Within source.remaining source.initial)
    (same_sign : debt.initial.pay < 0 ↔ source.initial < 0) :
    debt.remaining.pay - source.share debt = 0 ∨ source.remaining - source.share debt = 0 := by
  unfold share Within at *
  split_ifs <;> omega

end Source

namespace Book

variable {policy : LeftoverPolicy} {before book after : Book}

theorem Sound.source_within (sound : book.Sound policy) {means : Means} {source : Source}
    (source_eq : book.source? means = some source) : Within source.remaining source.initial := by
  cases means with
  | payment index =>
      obtain ⟨fund, fund_eq, rfl⟩ := Option.map_eq_some_iff.mp source_eq
      exact (sound.fund fund_eq).remaining_within
  | creditMemo index =>
      obtain ⟨debt, debt_eq, rfl⟩ := Option.map_eq_some_iff.mp source_eq
      exact (sound.debt debt_eq).remaining_within.neg
  | purchaseInvoice index =>
      obtain ⟨debt, debt_eq, rfl⟩ := Option.map_eq_some_iff.mp source_eq
      exact (sound.debt debt_eq).remaining_within.neg

/-- Every document of a later book that acts as a payment has been one before. -/
theorem Later.source_before (later : Later policy before after) {means : Means} {found : Source}
    (found_eq : after.source? means = some found) :
    ∃ source, before.source? means = some source ∧ Source.Later policy source found := by
  cases means with
  | payment index =>
      obtain ⟨fund, fund_eq, rfl⟩ := Option.map_eq_some_iff.mp found_eq
      obtain ⟨given, given_eq, step⟩ := forall₂_getElem?_right later.funds fund_eq
      exact ⟨.fund given, congrArg (Option.map Source.fund) given_eq, .fund step⟩
  | creditMemo index =>
      obtain ⟨debt, debt_eq, rfl⟩ := Option.map_eq_some_iff.mp found_eq
      obtain ⟨given, given_eq, step⟩ := forall₂_getElem?_right later.debts debt_eq
      exact ⟨.creditMemo given, congrArg (Option.map Source.creditMemo) given_eq, .creditMemo step⟩
  | purchaseInvoice index =>
      obtain ⟨debt, debt_eq, rfl⟩ := Option.map_eq_some_iff.mp found_eq
      obtain ⟨given, given_eq, step⟩ := forall₂_getElem?_right later.debts debt_eq
      exact ⟨.purchaseInvoice given, congrArg (Option.map Source.purchaseInvoice) given_eq,
        .purchaseInvoice step⟩

/-! ## What is settled -/

/-- The step deals nothing in the book. -/
def Settled (policy : LeftoverPolicy) (book : Book) (step : Step) : Prop :=
  book.deal? policy step = none

theorem settled_iff {step : Step} :
    book.Settled policy step ↔ ∀ deal, ¬Deals policy book step deal := by
  rw [Settled, Option.eq_none_iff_forall_ne_some]
  exact forall_congr' fun deal => not_congr deal?_eq_some_iff

theorem settled_pair_iff {kind : CandidateKind} {index : Nat} {means : Means} {debt : Debt}
    {source : Source} (debt_eq : book.debts[index]? = some debt)
    (source_eq : book.source? means = some source) :
    book.Settled policy (.pair kind index means) ↔
      ¬(debt.IsOpen ∧ source.IsOpen ∧ source.Fits debt) := by
  simp only [Settled, deal?, pairing?, debt_eq, source_eq, ite_eq_right_iff, reduceCtorEq,
    imp_false]

theorem settled_reverse_iff {inbound outbound : Nat} {received made : Fund}
    (received_eq : book.funds[inbound]? = some received)
    (made_eq : book.funds[outbound]? = some made) :
    book.Settled policy (.reverse inbound outbound) ↔
      ¬(received.IsOpen ∧ made.IsOpen ∧ made.currency = received.currency) := by
  simp only [Settled, deal?, reversal?, received_eq, made_eq, ite_eq_right_iff, reduceCtorEq,
    imp_false]

theorem settled_leftover_iff {index : Nat} {debt : Debt}
    (debt_eq : book.debts[index]? = some debt) :
    book.Settled policy (.leftover index) ↔ ¬(debt.IsOpen ∧ policy ≠ .leaveOpen) := by
  rw [settled_iff]
  constructor
  · exact fun settled ⟨debt_open, moves⟩ => settled _ (.leftover debt_eq debt_open moves)
  · rintro closed deal dealt
    cases dealt with
    | leftover found_eq debt_open moves =>
        obtain rfl := Option.some.inj (debt_eq.symm.trans found_eq)
        exact closed ⟨debt_open, moves⟩

theorem extras_eq_zero_iff (parts : Parts) :
    { parts with pay := 0 } = (0 : Parts) ↔ parts.discount = 0 ∧ parts.writeOff = 0 := by
  rw [Parts.ext_iff]
  exact and_iff_right rfl

theorem settled_remainder_iff {index : Nat} {debt : Debt}
    (debt_eq : book.debts[index]? = some debt) :
    book.Settled policy (.remainder index) ↔
      debt.remaining.discount = 0 ∧ debt.remaining.writeOff = 0 := by
  rw [settled_iff, ← extras_eq_zero_iff]
  constructor
  · exact fun settled => by_contra fun carries => settled _ (.remainder debt_eq carries)
  · rintro nothing deal dealt
    cases dealt with
    | remainder found_eq carries =>
        obtain rfl := Option.some.inj (debt_eq.symm.trans found_eq)
        exact carries nothing

/-- What is settled stays settled while the book becomes later. -/
theorem Later.settled (later : Later policy before after) {step : Step}
    (settled : before.Settled policy step) : after.Settled policy step := by
  rw [settled_iff] at settled ⊢
  intro deal dealt
  cases dealt with
  | pair debt_eq source_eq debt_open source_open fits =>
      obtain ⟨debt, given_eq, grown⟩ := forall₂_getElem?_right later.debts debt_eq
      obtain ⟨source, given_source_eq, drawn⟩ := later.source_before source_eq
      have fitted := (drawn.fits_iff grown.terms_eq).mp fits
      refine settled _ (.pair given_eq given_source_eq ?_ ?_ fitted)
      · exact fun nothing => debt_open (nothing ▸ grown.pay).eq_zero
      · exact fun nothing => source_open (nothing ▸ drawn.remaining_within).eq_zero
  | leftover debt_eq debt_open moves =>
      obtain ⟨debt, given_eq, grown⟩ := forall₂_getElem?_right later.debts debt_eq
      refine settled _ (.leftover given_eq ?_ moves)
      exact fun nothing => debt_open (nothing ▸ grown.pay).eq_zero
  | reverse received_eq made_eq received_open made_open currency_eq =>
      obtain ⟨received, given_received_eq, drawn⟩ := forall₂_getElem?_right later.funds received_eq
      obtain ⟨made, given_made_eq, spent⟩ := forall₂_getElem?_right later.funds made_eq
      refine settled _ (.reverse given_received_eq given_made_eq ?_ ?_ ?_)
      · exact fun nothing => received_open (nothing ▸ drawn.remaining).eq_zero
      · exact fun nothing => made_open (nothing ▸ spent.remaining).eq_zero
      · rwa [drawn.terms_eq, spent.terms_eq] at currency_eq
  | remainder debt_eq carries =>
      obtain ⟨debt, given_eq, grown⟩ := forall₂_getElem?_right later.debts debt_eq
      refine settled _ (.remainder given_eq fun nothing => carries ?_)
      obtain ⟨no_discount, no_writeOff⟩ := (extras_eq_zero_iff _).mp nothing
      apply (extras_eq_zero_iff _).mpr
      constructor
      · exact grown.discount.elim id fun kept => kept.trans no_discount
      · exact grown.writeOff.elim id fun kept => kept.trans no_writeOff

/-! ## Deals settle their steps -/

theorem Serves.getElem?_draw {kind : CandidateKind} {index : Nat} {means : Means}
    (serves : book.Serves kind index means) (after : Book) (amount : Int) :
    (after.draw means amount).debts[index]? = after.debts[index]? := by
  cases means with
  | payment other => rfl
  | creditMemo other => exact getElem?_charge_ne serves.ne_creditMemo.symm _
  | purchaseInvoice other => exact getElem?_charge_ne serves.ne_purchaseInvoice.symm _

/-- Every deal of a well-placed step leaves nothing to deal in that step. -/
theorem Deals.settles (sound : book.Sound policy) {step : Step} {deal : Deal}
    (dealt : Deals policy book step deal) (placed : book.Placed step) :
    deal.after.Settled policy step := by
  cases dealt with
  | pair debt_eq source_eq debt_open source_open fits =>
      rename_i kind index means debt source
      have serves : book.Serves kind index means := placed
      have charged := (serves.source?_charge (offer debt source)).trans source_eq
      have charged_debt := getElem?_changeDebt_self (·.charge (offer debt source)) debt_eq
      have drawn_debt := (serves.getElem?_draw _ (source.share debt)).trans charged_debt
      apply (settled_pair_iff drawn_debt (source?_draw (source.share debt) charged)).mpr
      rintro ⟨still_open, source_still_open, -⟩
      rcases Source.share_exhausts (sound.debt debt_eq).remaining_within
        (sound.source_within source_eq) fits.2 with nothing | nothing
      · exact still_open nothing
      · exact source_still_open ((source.remaining_draw _).trans nothing)
  | leftover debt_eq debt_open moves =>
      rename_i index debt
      have moved := getElem?_changeDebt_self (·.move policy) debt_eq
      have charged := getElem?_changeDebt_self (·.charge (debt.move policy).remaining) moved
      apply (settled_leftover_iff charged).mpr
      rintro ⟨still_open, -⟩
      exact still_open (sub_self (debt.move policy).remaining.pay)
  | reverse received_eq made_eq received_open made_open currency_eq =>
      rename_i inbound outbound received made
      have ne := Placed.reverse_ne placed
      have drawn_made := getElem?_changeFund_self (·.draw (offset received made)) made_eq
      have drawn_received := getElem?_changeFund_self (·.draw (-offset received made))
        ((getElem?_changeFund_ne ne.symm (·.draw (offset received made))).trans received_eq)
      apply (settled_reverse_iff drawn_received
        ((getElem?_changeFund_ne ne _).trans drawn_made)).mpr
      rintro ⟨received_still_open, made_still_open, -⟩
      simp only [Fund.IsOpen, Fund.remaining_draw, offset] at received_still_open made_still_open
      omega
  | remainder debt_eq carries =>
      rename_i index debt
      have charged := getElem?_changeDebt_self (·.charge { debt.remaining with pay := 0 }) debt_eq
      exact (settled_remainder_iff charged).mpr
        ⟨sub_self debt.remaining.discount, sub_self debt.remaining.writeOff⟩

/-! ## Steps of later books -/

theorem Later.places_debts (later : Later policy before after) (property : Debt.Terms → Bool) :
    places (fun debt => property debt.toTerms) after.debts =
      places (fun debt => property debt.toTerms) before.debts := by
  rw [← places_map Debt.toTerms property, ← places_map Debt.toTerms property,
    forall₂_map_eq later.debts fun _ _ step => step.terms_eq]

/-- A pass finds no other steps in a later book. -/
theorem Later.steps_subset (later : Later policy before after) (pass : Pass) :
    after.steps pass ⊆ before.steps pass := by
  intro step mem
  cases pass with
  | creditMemos =>
      rwa [steps, later.places_debts (fun terms => !terms.creditMemo),
        later.places_debts (fun terms => terms.creditMemo)] at mem
  | compensation =>
      rwa [steps, later.places_debts (fun terms => !terms.creditMemo && terms.side.isSales),
        later.places_debts (fun terms => !terms.creditMemo && terms.side.isPurchase)] at mem
  | payments => rwa [steps, ← later.debts.length_eq, ← later.funds.length_eq] at mem
  | remainders => rwa [steps, ← later.debts.length_eq] at mem
  | reversals =>
      obtain ⟨inbound, inbound_mem, outbound, outbound_mem, rfl⟩ := Step.mem_reverseAll.mp mem
      obtain ⟨received, received_eq, received_pos⟩ := mem_places.mp inbound_mem
      obtain ⟨made, made_eq, made_neg⟩ := mem_places.mp outbound_mem
      obtain ⟨given, given_eq, drawn⟩ := forall₂_getElem?_right later.funds received_eq
      obtain ⟨paid, paid_eq, spent⟩ := forall₂_getElem?_right later.funds made_eq
      have received_within := drawn.remaining
      have made_within := spent.remaining
      rw [decide_eq_true_eq] at received_pos made_neg
      unfold Within at received_within made_within
      refine Step.mem_reverseAll.mpr ⟨inbound, mem_places.mpr ⟨given, given_eq, ?_⟩, outbound,
        mem_places.mpr ⟨paid, paid_eq, ?_⟩, rfl⟩
      · exact decide_eq_true (by omega)
      · exact decide_eq_true (by omega)

end Book

/-! ## Whole settlements -/

namespace History

variable {policy : LeftoverPolicy} {history : History}

theorem step_settles (sound : history.book.Sound policy) {step : Step}
    (placed : history.book.Placed step) (ended : (history.step policy step).2 = none) :
    (history.step policy step).1.book.Settled policy step := by
  obtain ⟨nothing, step_eq⟩ | ⟨deal, dealt, -, step_eq⟩ | ⟨deal, error, -, -, step_eq⟩ :=
    step_cases policy history step
  · exact step_eq ▸ nothing
  · exact step_eq ▸ dealt.settles sound placed
  · rw [step_eq] at ended
    cases ended

/-- Steps that are all taken are all settled at the end. -/
theorem runAll_settles (sound : history.book.Sound policy) {steps : List Step}
    (placed : ∀ step ∈ steps, history.book.Placed step)
    (ended : (history.runAll policy steps).2 = none) :
    ∀ step ∈ steps, (history.runAll policy steps).1.book.Settled policy step := by
  induction steps generalizing history with
  | nil => simp
  | cons first rest ih =>
      have here := placed first (by simp)
      have later := later_step sound here
      have settles := step_settles sound here
      rw [runAll] at ended ⊢
      cases result_eq : history.step policy first with
      | mk stepped error =>
          rw [result_eq] at later settles ended
          cases error with
          | some error => cases ended
          | none =>
              have rest_placed : ∀ step ∈ rest, stepped.book.Placed step :=
                fun step mem => later.placed (placed step (by simp [mem]))
              intro step mem
              rcases List.mem_cons.mp mem with rfl | mem
              · exact (later_runAll later.sound rest_placed).settled (settles rfl)
              · exact ih later.sound rest_placed ended step mem

/-- Once all passes are through, every step that they still find is settled. -/
theorem runPasses_settles (sound : history.book.Sound policy) {passes : List Pass}
    (ended : (history.runPasses policy passes).2 = none) :
    ∀ pass ∈ passes, ∀ step ∈ (history.runPasses policy passes).1.book.steps pass,
      (history.runPasses policy passes).1.book.Settled policy step := by
  induction passes generalizing history with
  | nil => simp
  | cons first rest ih =>
      have later := later_pass sound first
      have whole := later_runPasses sound (first :: rest)
      have settles := runAll_settles sound (Book.placed_steps sound first)
      rw [runPasses] at ended whole ⊢
      cases result_eq : history.runAll policy (history.book.steps first) with
      | mk passed error =>
          rw [result_eq] at later settles ended whole
          cases error with
          | some error => cases ended
          | none =>
              intro pass pass_mem step mem
              rcases List.mem_cons.mp pass_mem with rfl | pass_mem
              · exact (later_runPasses later.sound rest).settled
                  (settles rfl step (whole.steps_subset pass mem))
              · exact ih later.sound ended pass pass_mem step mem

/-- Settled steps change nothing. -/
theorem runAll_of_settled {steps : List Step}
    (settled : ∀ step ∈ steps, history.book.Settled policy step) :
    history.runAll policy steps = (history, none) := by
  induction steps with
  | nil => rfl
  | cons first rest ih =>
      have nothing : history.book.deal? policy first = none := settled first (by simp)
      rw [runAll, History.step, nothing]
      exact ih fun step mem => settled step (by simp [mem])

theorem runPasses_of_settled {passes : List Pass}
    (settled : ∀ pass ∈ passes, ∀ step ∈ history.book.steps pass,
      history.book.Settled policy step) :
    history.runPasses policy passes = (history, none) := by
  induction passes with
  | nil => rfl
  | cons first rest ih =>
      rw [runPasses, runAll_of_settled (settled first (by simp))]
      exact ih fun pass mem => settled pass (by simp [mem])

end History

namespace Book

variable {settings : Settings} {book : Book}

theorem check_of_ended (ended : (book.settle settings).2 = none) :
    book.check settings = .ok () := by
  unfold settle at ended
  split at ended
  · cases ended
  · assumption

/-- A settlement that comes to its end leaves nothing to deal in any step of its passes. -/
theorem settle_settles (sound : book.Sound settings.leftover)
    (ended : (book.settle settings).2 = none) :
    ∀ pass ∈ settings.passes, ∀ step ∈ (book.settle settings).1.book.steps pass,
      (book.settle settings).1.book.Settled settings.leftover step := by
  have checked := check_of_ended ended
  rw [settle, checked] at ended ⊢
  exact History.runPasses_settles sound ended

/-- The book that a settlement ends with is not settled any further. -/
theorem settle_again (sound : book.Sound settings.leftover)
    (ended : (book.settle settings).2 = none) :
    (book.settle settings).1.book.settle settings =
      ({ book := (book.settle settings).1.book }, none) := by
  have later := (trail_settle sound).later sound
  have settled := settle_settles sound ended
  have checked := (later.check_eq settings).trans (check_of_ended ended)
  rw [settle, checked]
  exact History.runPasses_of_settled settled

end Book
end Settlement
