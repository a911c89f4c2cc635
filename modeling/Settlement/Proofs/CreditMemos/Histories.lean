import Settlement.Proofs.CreditMemos.Books
import Settlement.Proofs.Exact.Simulation

/-!
# Histories with payments in place of credit memos

The pass over the credit memos of one book makes, step by step, the deals that the pass over the
payments makes in the restated book, and both deal with leftovers alike.  No other pass makes such
deals.
-/

namespace Settlement

/-- An entry and how it is restated; what is conceded without a payment stays the same. -/
def Entry.Alike (links : List (Reference × Reference)) (credited paid : Entry) : Prop :=
  credited.Restates links paid ∨ credited.kind = .invoiceDiscountOrWriteOff ∧ paid = credited

/-- Two deals with entries alike that leave restated books. -/
structure Deal.Restates (links : List (Reference × Reference)) (credited paid : Deal) : Prop where
  entry : credited.entry.Alike links paid.entry
  after : credited.after.Restates links paid.after

variable {links : List (Reference × Reference)} {policy : LeftoverPolicy} {side : TradeSide}
  {currency : Currency}

/-- Pairings of related places with related documents are related, and so are the leftovers in
between. -/
theorem Step.forall₂_pairAll {kind kind' : CandidateKind} {make make' : Nat → Means}
    {pays acts : Nat → Nat → Prop} {related : Step → Step → Prop} {payables payables' : List Nat}
    {places places' : List Nat} (payables_related : List.Forall₂ pays payables payables')
    (places_related : List.Forall₂ acts places places')
    (pair : ∀ index index' place place', pays index index' → acts place place' →
      related (.pair kind index (make place)) (.pair kind' index' (make' place')))
    (leftover : ∀ index index', pays index index' →
      related (.leftover index) (.leftover index')) :
    List.Forall₂ related (pairAll kind payables (places.map make))
      (pairAll kind' payables' (places'.map make')) := by
  rw [pairAll, pairAll, List.isEmpty_map, List.isEmpty_map, forall₂_isEmpty places_related]
  split
  · exact .nil
  refine List.rel_flatMap payables_related fun index index' same => ?_
  refine List.rel_append ?_ (.cons (leftover _ _ same) .nil)
  rw [List.map_map, List.map_map, List.forall₂_map_left_iff, List.forall₂_map_right_iff]
  exact places_related.imp fun place place' => pair _ _ _ _ same

namespace Book

variable {credit cash : Book} {step step' : Step}

/-- What is settled of an invoice with a credit memo is settled with the fund. -/
theorem Restates.pair {debt memo : Debt} {fund : Fund} (opposes : fund.Opposes links memo) :
    (pairEntry .invoiceToCreditMemo debt (.creditMemo memo)
        (offer debt (.creditMemo memo))).Restates links
      (pairEntry .invoiceToPayment debt (.fund fund) (offer debt (.fund fund))) where
  credited_kind := rfl
  paid_kind := rfl
  organization_eq := rfl
  partner_eq := rfl
  payable_eq := rfl
  linked := ⟨_, opposes.linked, rfl, rfl⟩
  currency_eq := rfl
  parts_eq := opposes.offer_eq debt
  payableOverUnder_eq := congrArg debt.projected (opposes.offer_eq debt)
  paymentOverUnder_eq := by
    simp only [pairEntry, opposes.offer_eq]
    exact opposes.projected_eq _

/-- A restated step makes the deal that the step makes, or both make none. -/
theorem Restates.deal (restates : credit.Restates links cash)
    (uniform : credit.Uniform side currency) (step_restates : step.Restates credit step') :
    Option.Rel (Deal.Restates links) (credit.deal? policy step) (cash.deal? policy step') := by
  cases step_restates with
  | pair index_eq other_eq =>
      rename_i index other position place
      obtain ⟨debt, debt_eq, -, debt_at⟩ := restates.debt index_eq
      obtain ⟨memo, fund, memo_eq, -, fund_at, opposes⟩ := restates.memo other_eq
      obtain ⟨invoice, debt_side, debt_currency⟩ := uniform debt (List.mem_of_getElem? debt_eq)
      obtain ⟨-, memo_side, memo_currency⟩ := uniform memo (List.mem_of_getElem? memo_eq)
      have fits := opposes.fits_iff invoice (debt_side.trans memo_side.symm)
        (debt_currency.trans memo_currency.symm)
      have charged := restates.changeDebt index_eq (·.charge (offer debt (.creditMemo memo)))
        fun _ => rfl
      simp only [deal?, pairing?, source?, debt_eq, debt_at, memo_eq, fund_at, Option.map_some,
        fits, Source.IsOpen, opposes.remaining_source]
      split
      · refine .some ⟨.inl (Restates.pair opposes), ?_⟩
        dsimp only
        rw [opposes.offer_eq, opposes.share_eq]
        refine charged.draw ?_ _
        rw [position?_changeDebt]
        · exact other_eq
        · exact fun _ => rfl
      · exact .none
  | leftover index_eq =>
      rename_i index position
      obtain ⟨debt, debt_eq, -, debt_at⟩ := restates.debt index_eq
      simp only [deal?, leftover?, debt_eq, debt_at]
      split
      · rw [concession?_eq _ (getElem?_changeDebt_self (·.move policy) debt_eq),
          concession?_eq _ (getElem?_changeDebt_self (·.move policy) debt_at)]
        refine .some ⟨.inr ⟨rfl, rfl⟩, ?_⟩
        have keeps : ∀ debt : Debt, (debt.move policy).creditMemo = debt.creditMemo :=
          fun debt => congrArg Debt.Terms.creditMemo (debt.terms_move policy)
        have moved := restates.changeDebt index_eq (·.move policy) keeps
        refine moved.changeDebt ?_ _ fun _ => rfl
        rw [position?_changeDebt]
        · exact index_eq
        · exact fun debt => congrArg (!·) (keeps debt)
      · exact .none

/-- The steps with the credit memos of a book are those with the funds of the restated one. -/
theorem Restates.steps (restates : credit.Restates links cash) :
    List.Forall₂ (Step.Restates credit) (credit.steps .creditMemos) (cash.steps .payments) := by
  have invoices := forall₂_places (!·.creditMemo) credit.debts
  have memos := forall₂_places (·.creditMemo) credit.debts
  rw [← restates.invoices] at invoices
  rw [restates.memos.length_eq] at memos
  exact Step.forall₂_pairAll invoices memos (fun _ _ _ _ => .pair) fun _ _ => .leftover

end Book

/-! ## Histories -/

namespace History

/-- Two histories whose books may be settled in step: deals alike have been made so far, in the
same order, and whatever the next ones are, none is refused. -/
structure Restates (links : List (Reference × Reference)) (policy : LeftoverPolicy)
    (side : TradeSide) (currency : Currency) (credited paid : History) : Prop where
  book : credited.book.Restates links paid.book
  deals : List.Forall₂ (fun deal deal' => deal.entry.Alike links deal'.entry)
    credited.deals paid.deals
  uniform : credited.book.Uniform side currency
  credited_sound : credited.book.Sound policy
  credited_distinct : credited.book.Distinct
  paid_sound : paid.book.Sound policy
  paid_distinct : paid.book.Distinct

variable {credited paid : History}

/-- Accepted deals that restate one another are recorded alike. -/
theorem settle_restates {dealt dealt' : Option Deal} (book : credited.book.Restates links paid.book)
    (deals : List.Forall₂ (fun deal deal' => deal.entry.Alike links deal'.entry)
      credited.deals paid.deals)
    (alike : Option.Rel (Deal.Restates links) dealt dealt')
    (accepted : ∀ deal, dealt = some deal → deal.entry.refusal? = none)
    (accepted' : ∀ deal, dealt' = some deal → deal.entry.refusal? = none) :
    (credited.settle dealt).1.book.Restates links (paid.settle dealt').1.book ∧
      List.Forall₂ (fun deal deal' => deal.entry.Alike links deal'.entry)
        (credited.settle dealt).1.deals (paid.settle dealt').1.deals := by
  cases alike with
  | none => exact ⟨book, deals⟩
  | some same =>
      simp only [settle, accepted _ rfl, accepted' _ rfl]
      exact ⟨same.after, List.rel_append deals (.cons same.entry .nil)⟩

theorem Restates.step (restates : Restates links policy side currency credited paid)
    {step step' : Step} (step_restates : step.Restates credited.book step')
    (placed : credited.book.Placed step) (placed' : paid.book.Placed step') :
    Restates links policy side currency (credited.step policy step).1
      (paid.step policy step').1 := by
  have later := later_step restates.credited_sound placed
  have later' := later_step restates.paid_sound placed'
  obtain ⟨book, deals⟩ := settle_restates restates.book restates.deals
    (restates.book.deal restates.uniform step_restates)
    (fun deal dealt =>
      (Book.deal?_eq_some_iff.mp dealt).accepted restates.credited_distinct placed)
    (fun deal dealt => (Book.deal?_eq_some_iff.mp dealt).accepted restates.paid_distinct placed')
  exact
    { book := book
      deals := deals
      uniform := later.uniform restates.uniform
      credited_sound := later.sound
      credited_distinct := later.distinct restates.credited_distinct
      paid_sound := later'.sound
      paid_distinct := later'.distinct restates.paid_distinct }

/-- Restated steps lead from histories that restate one another to such histories. -/
theorem Restates.runAll (restates : Restates links policy side currency credited paid)
    {steps steps' : List Step} (related : List.Forall₂ (Step.Restates credited.book) steps steps')
    (placed : ∀ step ∈ steps, credited.book.Placed step)
    (placed' : ∀ step ∈ steps', paid.book.Placed step) :
    Restates links policy side currency (credited.runAll policy steps).1
      (paid.runAll policy steps').1 := by
  induction steps generalizing credited paid steps' with
  | nil =>
      cases related
      exact restates
  | cons step rest ih =>
      cases related with
      | cons head tail =>
          rename_i step' rest'
          have here := placed step (by simp)
          have here' := placed' step' (by simp)
          have later := later_step restates.credited_sound here
          have later' := later_step restates.paid_sound here'
          rw [History.runAll, History.runAll,
            proceed_eq (step_ends restates.credited_distinct here),
            proceed_eq (step_ends restates.paid_distinct here')]
          exact ih (restates.step head here here') (tail.imp fun _ _ => later.step_restates)
            (fun other mem => later.placed (placed other (by simp [mem])))
            fun other mem => later'.placed (placed' other (by simp [mem]))

/-! ## The passes -/

theorem runPasses_skip {pass : Pass} {rest : List Pass} {history : History}
    (no_steps : history.book.steps pass = []) :
    history.runPasses policy (pass :: rest) = history.runPasses policy rest := by
  rw [runPasses, no_steps]
  rfl

/-- Without funds there is nothing to do once the credit memos are through. -/
theorem runPasses_unfunded (sound : credited.book.Sound policy)
    (unfunded : credited.book.funds = []) :
    credited.runPasses policy [.creditMemos, .payments] =
      credited.runAll policy (credited.book.steps .creditMemos) := by
  have later := later_pass sound .creditMemos
  rw [runPasses]
  generalize credited.runAll policy (credited.book.steps .creditMemos) = advance at later ⊢
  obtain ⟨reached, _ | error⟩ := advance
  · have funds : reached.book.funds = [] :=
      List.forall₂_nil_left_iff.mp (unfunded ▸ later.funds)
    exact runPasses_skip (by simp [Book.steps, funds, Step.pairAll])
  · rfl

/-- Without credit memos there is nothing to do before the payments. -/
theorem runPasses_plain (plain : ∀ debt ∈ paid.book.debts, debt.creditMemo = false) :
    paid.runPasses policy [.creditMemos, .payments] =
      paid.runAll policy (paid.book.steps .payments) := by
  have no_memos : places (·.creditMemo) paid.book.debts = [] := by
    refine List.eq_nil_iff_forall_not_mem.mpr fun place mem => ?_
    obtain ⟨debt, debt_eq, credit⟩ := mem_places.mp mem
    exact Bool.eq_false_iff.mp (plain debt (List.mem_of_getElem? debt_eq)) credit
  rw [runPasses_skip (by simp [Book.steps, no_memos, Step.pairAll]), runPasses]
  exact Progress.proceed_done _

/-- Matching a book without funds and matching its restatement makes deals alike. -/
theorem Restates.runPasses (restates : Restates links policy side currency credited paid)
    (unfunded : credited.book.funds = []) :
    Restates links policy side currency
      (credited.runPasses policy [.creditMemos, .payments]).1
      (paid.runPasses policy [.creditMemos, .payments]).1 := by
  have plain : ∀ debt ∈ paid.book.debts, debt.creditMemo = false := by
    intro debt mem
    rw [restates.book.invoices] at mem
    simpa using List.of_mem_filter mem
  rw [runPasses_unfunded restates.credited_sound unfunded, runPasses_plain plain]
  exact restates.runAll restates.book.steps (Book.placed_steps restates.credited_sound _)
    (Book.placed_steps restates.paid_sound _)

end History
end Settlement
