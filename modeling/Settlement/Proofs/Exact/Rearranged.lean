import Settlement.Proofs.Exact.Alike

/-!
# Settlements of rearranged books

The first two passes tell the four groups of debts apart, the later ones no longer do.  Each pass
leaves alike what the next one needs, so two settlements of the same documents in another order
pay the same of every kind and leave the same.
-/

namespace Settlement

namespace Weights

/-- The groups that the passes for credit memos and for compensation leave alike. -/
inductive IsGroup : Weights → Prop where
  | sales (currency : Currency) (direction : Direction) :
      IsGroup (ofDebts (Debt.Terms.isInvoiceOf .sales) currency direction)
  | orders (currency : Currency) (direction : Direction) :
      IsGroup (ofDebts Debt.Terms.isOrder currency direction)
  | bills (currency : Currency) (direction : Direction) :
      IsGroup (ofDebts Debt.Terms.isBill currency direction)
  | memos (currency : Currency) (direction : Direction) :
      IsGroup (ofDebts Debt.Terms.creditMemo currency direction)
  | funds (currency : Currency) (direction : Direction) :
      IsGroup (ofFunds currency direction)

/-- The groups that the passes for payments leave alike: all debts, and the funds. -/
inductive IsWhole : Weights → Prop where
  | debts (currency : Currency) (direction : Direction) :
      IsWhole (ofDebts (fun _ => true) currency direction)
  | funds (currency : Currency) (direction : Direction) :
      IsWhole (ofFunds currency direction)

variable {kind : CandidateKind} {tracked : Weights → Prop} {selects : Debt.Terms → Bool}
  {currency : Currency} {direction : Direction}

theorem carried_of_settled (member : tracked (ofDebts selects currency direction))
    (determined : Determined kind tracked (ofDebts selects currency direction))
    (settled : ∀ terms, selects terms = true → kind.settles terms = true) :
    Carried kind tracked (ofDebts selects currency direction) where
  member := member
  determined := determined
  apart := .inl ⟨fun terms counts => settled terms (selected_of_ofDebts counts).1, fun _ => rfl⟩

theorem carried_of_spared (member : tracked (ofDebts selects currency direction))
    (determined : Determined kind tracked (ofDebts selects currency direction))
    (spared : ∀ terms, selects terms = true → kind.settles terms = false) :
    Carried kind tracked (ofDebts selects currency direction) where
  member := member
  determined := determined
  apart := .inr fun terms counts => spared terms (selected_of_ofDebts counts).1

theorem carried_of_funds (member : tracked (ofFunds currency direction))
    (determined : Determined kind tracked (ofFunds currency direction)) :
    Carried kind tracked (ofFunds currency direction) where
  member := member
  determined := determined
  apart := .inr fun _ counts => absurd rfl counts

/-! ## Credit memos -/

theorem determined_isInvoiceOf (side : TradeSide) (currency : Currency) (direction : Direction) :
    (ofDebts (Debt.Terms.isInvoiceOf side) currency direction).Determined .invoiceToCreditMemo
      fun _ => True :=
  .pool (pool_creditMemos side currency direction) trivial trivial

theorem determined_isInvoice (currency : Currency) (direction : Direction) :
    (ofDebts Debt.Terms.isInvoice currency direction).Determined .invoiceToCreditMemo
      fun _ => True := by
  have split : ∀ terms, Debt.Terms.isInvoice terms =
      (Debt.Terms.isInvoiceOf .sales terms || Debt.Terms.isInvoiceOf .purchase terms) := by
    intro terms
    cases side : terms.side <;> simp [Debt.Terms.isInvoiceOf, side]
  have apart : ∀ terms, Debt.Terms.isInvoiceOf .sales terms = true →
      Debt.Terms.isInvoiceOf .purchase terms = false := by
    intro terms
    cases side : terms.side <;> simp [Debt.Terms.isInvoiceOf, side]
  rw [ofDebts_split split apart]
  exact .add (determined_isInvoiceOf .sales currency direction)
    (determined_isInvoiceOf .purchase currency direction)

theorem carried_creditMemos {weights : Weights} (group : weights.IsGroup) :
    weights.Carried .invoiceToCreditMemo fun _ => True := by
  cases group with
  | sales currency direction =>
      apply carried_of_settled trivial (determined_isInvoiceOf .sales currency direction)
      intro terms selected
      simp only [Debt.Terms.isInvoiceOf, Debt.Terms.isInvoice, Bool.and_eq_true] at selected
      exact selected.1.1
  | orders currency direction =>
      apply carried_of_settled trivial
      · apply Determined.idle
        apply idle_of_opposed (by decide)
        rintro debt memo ⟨plain, kind_eq, credit, side_eq⟩
        simp [Debt.Terms.isOrder, kind_eq, credit]
      · intro terms selected
        simp only [Debt.Terms.isOrder, Bool.and_eq_true] at selected
        exact selected.1.1
  | bills currency direction =>
      apply carried_of_settled trivial
      · apply Determined.even (determined_isInvoiceOf .purchase currency direction)
        apply even_of_same (by decide)
        rintro debt memo ⟨plain, kind_eq, credit, side_eq⟩
        simp [Debt.Terms.isBill, Debt.Terms.isInvoiceOf, Debt.Terms.isInvoice, plain, kind_eq,
          credit]
      · intro terms selected
        simp only [Debt.Terms.isBill, Bool.and_eq_true] at selected
        exact selected.1
  | memos currency direction =>
      apply carried_of_spared trivial
      · have opposite_eq : direction.opposite.opposite = direction := by cases direction <;> rfl
        rw [← opposite_eq]
        apply Determined.even (determined_isInvoice currency direction.opposite)
        apply even_of_opposed (by decide)
        rintro debt memo ⟨plain, kind_eq, credit, side_eq⟩
        simp [Debt.Terms.isInvoice, plain, kind_eq, credit]
      · intro terms selected
        simp [CandidateKind.settles, selected]
  | funds currency direction =>
      exact carried_of_funds trivial (.idle (idle_ofFunds (by decide)))

/-! ## Compensation -/

theorem determined_sales (currency : Currency) (direction : Direction) :
    (ofDebts (Debt.Terms.isInvoiceOf .sales) currency direction).Determined
      .salesInvoiceToPurchaseInvoice IsGroup :=
  .pool (pool_compensation currency direction) (.sales currency direction)
    (.bills currency direction.opposite)

theorem carried_compensation {weights : Weights} (group : weights.IsGroup) :
    weights.Carried .salesInvoiceToPurchaseInvoice IsGroup := by
  cases group with
  | sales currency direction =>
      apply carried_of_settled (.sales currency direction) (determined_sales currency direction)
      intro terms selected
      simp only [Debt.Terms.isInvoiceOf, Debt.Terms.isInvoice, Bool.and_eq_true,
        beq_iff_eq] at selected
      simp only [CandidateKind.settles, selected.1.1, selected.2, TradeSide.isSales, Bool.and_self]
  | orders currency direction =>
      apply carried_of_settled (.orders currency direction)
      · apply Determined.idle
        apply idle_of_opposed (by decide)
        rintro debt bill ⟨plain, kind_eq, sales, bill_plain, purchase⟩
        simp [Debt.Terms.isOrder, kind_eq, purchase]
      · intro terms selected
        simp only [Debt.Terms.isOrder, Bool.and_eq_true, beq_iff_eq] at selected
        simp only [CandidateKind.settles, selected.1.1, selected.1.2, TradeSide.isSales,
          Bool.and_self]
  | bills currency direction =>
      apply carried_of_spared (.bills currency direction)
      · have opposite_eq : direction.opposite.opposite = direction := by cases direction <;> rfl
        rw [← opposite_eq]
        exact .even (determined_sales currency direction.opposite)
          (pool_compensation currency direction.opposite).even
      · intro terms selected
        simp only [Debt.Terms.isBill, Bool.and_eq_true, beq_iff_eq] at selected
        simp only [CandidateKind.settles, selected.2, TradeSide.isSales, Bool.and_false]
  | memos currency direction =>
      apply carried_of_spared (.memos currency direction)
      · apply Determined.idle
        apply idle_of_opposed (by decide)
        rintro debt bill ⟨plain, kind_eq, sales, bill_plain, purchase⟩
        exact ⟨plain, bill_plain⟩
      · intro terms selected
        simp [CandidateKind.settles, selected]
  | funds currency direction =>
      exact carried_of_funds (.funds currency direction) (.idle (idle_ofFunds (by decide)))

/-! ## Payments -/

theorem determined_debts (currency : Currency) (direction : Direction) :
    (ofDebts (fun _ => true) currency direction).Determined .invoiceToPayment IsWhole :=
  .pool (pool_payments currency direction) (.debts currency direction)
    (.funds currency direction)

theorem carried_payments {weights : Weights} (whole : weights.IsWhole) :
    weights.Carried .invoiceToPayment IsWhole := by
  cases whole with
  | debts currency direction =>
      exact carried_of_settled (.debts currency direction) (determined_debts currency direction)
        fun _ _ => rfl
  | funds currency direction =>
      exact carried_of_funds (.funds currency direction)
        (.even (determined_debts currency direction) (pool_payments currency direction).even)

/-- All debts are the four groups together. -/
theorem ofDebts_all (currency : Currency) (direction : Direction) :
    ofDebts (fun _ => true) currency direction =
      ofDebts (Debt.Terms.isInvoiceOf .sales) currency direction +
        ofDebts Debt.Terms.isOrder currency direction +
        ofDebts Debt.Terms.isBill currency direction +
        ofDebts Debt.Terms.creditMemo currency direction := by
  ext terms
  · cases credit : terms.creditMemo <;> cases side : terms.side <;> cases kind : terms.kind <;>
      simp [ofDebts, Debt.Terms.isInvoiceOf, Debt.Terms.isInvoice, Debt.Terms.isOrder,
        Debt.Terms.isBill, credit, side, kind]
  · rfl

end Weights

/-! ## Passes -/

namespace History

variable {policy : LeftoverPolicy} {history first second : History} {tracked : Weights → Prop}

theorem Alike.whole (alike : Alike Weights.IsGroup first second) :
    Alike Weights.IsWhole first second where
  outstanding weights whole := by
    cases whole with
    | debts currency direction =>
        have sales := alike.outstanding _ (.sales currency direction)
        have orders := alike.outstanding _ (.orders currency direction)
        have bills := alike.outstanding _ (.bills currency direction)
        have memos := alike.outstanding _ (.memos currency direction)
        rw [Weights.ofDebts_all]
        simp only [Book.outstanding, Book.weigh_add] at sales orders bills memos ⊢
        omega
    | funds currency direction => exact alike.outstanding _ (.funds currency direction)
  paid := alike.paid

/-- The history after a pass over its book. -/
def afterPass (policy : LeftoverPolicy) (pass : Pass) (history : History) : History :=
  (history.runAll policy (history.book.steps pass)).1

theorem runPasses_cons (sound : history.book.Sound policy) (distinct : history.book.Distinct)
    (pass : Pass) (rest : List Pass) :
    history.runPasses policy (pass :: rest) =
      (history.afterPass policy pass).runPasses policy rest := by
  rw [runPasses, proceed_eq (runAll_ends sound distinct (Book.placed_steps sound pass))]
  rfl

theorem sound_afterPass (sound : history.book.Sound policy) (pass : Pass) :
    (history.afterPass policy pass).book.Sound policy :=
  (later_pass sound pass).sound

/-- A pass of pairings over a sound book that comes to its end exchanges. -/
theorem exchanges_of_ended (sound : history.book.Sound policy) {pass : Pass}
    (ended : (history.runAll policy (history.book.steps pass)).2 = none) {kind : CandidateKind}
    {payees : List Nat} {payers : List Means}
    (steps_eq : history.book.steps pass = Step.pairAll kind payees payers)
    (pairs : history.book.Pairs kind payees payers)
    (two_sided : kind ≠ .invoiceDiscountOrWriteOff) :
    Exchanges kind (policy ≠ .leaveOpen ∧ payers ≠ []) history
      (history.afterPass policy pass) := by
  have placed := Book.placed_steps sound pass
  unfold afterPass
  rw [steps_eq] at placed ended ⊢
  exact exchanges_runAll sound placed ended pairs two_sided

/-- Over distinct references, it always does. -/
theorem exchanges_afterPass (sound : history.book.Sound policy)
    (distinct : history.book.Distinct) (pass : Pass) {kind : CandidateKind} {payees : List Nat}
    {payers : List Means} (steps_eq : history.book.steps pass = Step.pairAll kind payees payers)
    (pairs : history.book.Pairs kind payees payers)
    (two_sided : kind ≠ .invoiceDiscountOrWriteOff) :
    Exchanges kind (policy ≠ .leaveOpen ∧ payers ≠ []) history
      (history.afterPass policy pass) :=
  exchanges_of_ended sound (runAll_ends sound distinct (Book.placed_steps sound pass)) steps_eq
    pairs two_sided

section

variable (permuted : Book.Permuted policy first.book second.book)

include permuted

theorem Alike.creditMemos (alike : Alike (fun _ => True) first second) :
    Alike Weights.IsGroup (first.afterPass policy .creditMemos)
      (second.afterPass policy .creditMemos) := by
  have early := exchanges_afterPass permuted.first_sound permuted.first_distinct .creditMemos
    rfl (Book.pairs_creditMemos first.book) (by decide)
  have late := exchanges_afterPass permuted.second_sound permuted.second_distinct .creditMemos
    rfl (Book.pairs_creditMemos second.book) (by decide)
  have swept := permuted.payers_ne_nil Debt.Terms.creditMemo .creditMemo
  apply early.leaves_alike late alike (and_congr_right fun _ => swept)
    fun _ => Weights.carried_creditMemos
  · exact fun currency => .add (Weights.determined_isInvoice currency .inbound)
      (.neg (Weights.determined_isInvoice currency .outbound))
  · apply Weights.paid_of_opposed (by decide)
    rintro debt memo ⟨plain, kind_eq, credit, side_eq⟩
    simp [Debt.Terms.isInvoice, plain, kind_eq, credit]

theorem Alike.compensation (alike : Alike Weights.IsGroup first second) :
    Alike Weights.IsGroup (first.afterPass policy .compensation)
      (second.afterPass policy .compensation) := by
  have early := exchanges_afterPass permuted.first_sound permuted.first_distinct .compensation
    rfl (Book.pairs_compensation first.book) (by decide)
  have late := exchanges_afterPass permuted.second_sound permuted.second_distinct .compensation
    rfl (Book.pairs_compensation second.book) (by decide)
  have swept := permuted.payers_ne_nil
    (fun terms => !terms.creditMemo && terms.side.isPurchase) .purchaseInvoice
  apply early.leaves_alike late alike (and_congr_right fun _ => swept)
    fun _ => Weights.carried_compensation
  · exact fun currency => .add (Weights.determined_sales currency .inbound)
      (.neg (Weights.determined_sales currency .outbound))
  · apply Weights.paid_of_opposed (by decide)
    rintro debt bill ⟨plain, kind_eq, sales, bill_plain, purchase⟩
    simp [Debt.Terms.isInvoiceOf, Debt.Terms.isInvoice, plain, kind_eq, sales, purchase]

theorem Alike.payments (alike : Alike Weights.IsWhole first second) :
    Alike Weights.IsWhole (first.afterPass policy .payments)
      (second.afterPass policy .payments) := by
  have early := exchanges_afterPass permuted.first_sound permuted.first_distinct .payments
    rfl (Book.pairs_payments first.book) (by decide)
  have late := exchanges_afterPass permuted.second_sound permuted.second_distinct .payments
    rfl (Book.pairs_payments second.book) (by decide)
  have swept := permuted.funds_ne_nil .payment
  apply early.leaves_alike late alike (and_congr_right fun _ => swept)
    fun _ => Weights.carried_payments
  · exact fun currency => .add (Weights.determined_debts currency .inbound)
      (.neg (Weights.determined_debts currency .outbound))
  · exact Weights.paid_payments

theorem Alike.reversals (alike : Alike Weights.IsWhole first second) :
    Alike Weights.IsWhole (first.afterPass policy .reversals)
      (second.afterPass policy .reversals) := by
  have early : Offsets first (first.afterPass policy .reversals) :=
    offsets_reversals permuted.first_sound (runAll_ends permuted.first_sound
      permuted.first_distinct (Book.placed_steps permuted.first_sound .reversals))
  have late : Offsets second (second.afterPass policy .reversals) :=
    offsets_reversals permuted.second_sound (runAll_ends permuted.second_sound
      permuted.second_distinct (Book.placed_steps permuted.second_sound .reversals))
  -- The same is offset in both, since the same is left of payments received and made.
  have settled : ∀ currency direction,
      (first.afterPass policy .reversals).book.settled (.ofFunds currency direction) -
          first.book.settled (.ofFunds currency direction) =
        (second.afterPass policy .reversals).book.settled (.ofFunds currency direction) -
          second.book.settled (.ofFunds currency direction) := by
    intro currency direction
    rw [early.pool, late.pool, alike.outstanding _ (.funds currency .inbound),
      alike.outstanding _ (.funds currency .outbound)]
    omega
  constructor
  · intro weights whole
    have before := alike.outstanding weights whole
    cases whole with
    | debts currency direction =>
        rw [early.debts fun _ => rfl, late.debts fun _ => rfl, before]
    | funds currency direction =>
        have first_kept := early.kept (.ofFunds currency direction)
        have second_kept := late.kept (.ofFunds currency direction)
        have moved := settled currency direction
        omega
  · intro kind two_sided currency
    have before := alike.paid kind two_sided currency
    by_cases here : kind = .inboundPaymentToOutboundPayment
    · subst here
      have first_gain := early.gain currency .inbound
      have second_gain := late.gain currency .inbound
      have moved := settled currency .inbound
      omega
    · rw [early.others kind currency here, late.others kind currency here, before]

theorem Alike.remainders (alike : Alike tracked first second) :
    Alike tracked (first.afterPass policy .remainders)
      (second.afterPass policy .remainders) where
  outstanding weights mem := by
    rw [afterPass, afterPass, outstanding_remainders permuted.first_sound,
      outstanding_remainders permuted.second_sound]
    exact alike.outstanding weights mem
  paid kind two_sided currency := by
    rw [afterPass, afterPass, paid_remainders permuted.first_sound two_sided,
      paid_remainders permuted.second_sound two_sided]
    exact alike.paid kind two_sided currency

/-! ## Whole settlements -/

theorem permuted_afterPass (pass : Pass) :
    Book.Permuted policy (first.afterPass policy pass).book
      (second.afterPass policy pass).book :=
  permuted.later (later_pass permuted.first_sound pass) (later_pass permuted.second_sound pass)

/-- What later passes make of two histories is seen after the pass before them. -/
theorem runPasses_pair {relation : History → History → Prop} (pass : Pass) (rest : List Pass)
    (later : relation ((first.afterPass policy pass).runPasses policy rest).1
      ((second.afterPass policy pass).runPasses policy rest).1) :
    relation (first.runPasses policy (pass :: rest)).1
      (second.runPasses policy (pass :: rest)).1 := by
  rwa [runPasses_cons permuted.first_sound permuted.first_distinct,
    runPasses_cons permuted.second_sound permuted.second_distinct]

end

/-- The passes for payments leave alike what they find alike. -/
theorem Alike.runPasses_payments (permuted : Book.Permuted policy first.book second.book)
    (alike : Alike Weights.IsWhole first second) :
    Alike Weights.IsWhole (first.runPasses policy [.payments, .reversals, .remainders]).1
      (second.runPasses policy [.payments, .reversals, .remainders]).1 := by
  have permuted_paid := permuted_afterPass permuted .payments
  have permuted_reversed := permuted_afterPass permuted_paid .reversals
  have paid := alike.payments permuted
  have reversed := paid.reversals permuted_paid
  have ended := reversed.remainders permuted_reversed
  apply runPasses_pair permuted
  apply runPasses_pair permuted_paid
  apply runPasses_pair permuted_reversed
  simpa only [runPasses] using ended

/-- Settlements of the same documents in another order pay and leave the same. -/
theorem Alike.runPasses (permuted : Book.Permuted policy first.book second.book)
    (alike : Alike (fun _ => True) first second) (settings : Settings) :
    Alike Weights.IsWhole (first.runPasses policy settings.passes).1
      (second.runPasses policy settings.passes).1 := by
  have credited := alike.creditMemos permuted
  have permuted_credited := permuted_afterPass permuted .creditMemos
  by_cases compensates : settings.compensation = true
  · have passes_eq : settings.passes =
        [.creditMemos, .compensation, .payments, .reversals, .remainders] := by
      simp [Settings.passes, compensates]
    rw [passes_eq]
    apply runPasses_pair permuted
    apply runPasses_pair permuted_credited
    exact (credited.compensation permuted_credited).whole.runPasses_payments
      (permuted_afterPass permuted_credited .compensation)
  · have passes_eq : settings.passes = [.creditMemos, .payments, .reversals, .remainders] := by
      simp [Settings.passes, compensates]
    rw [passes_eq]
    apply runPasses_pair permuted
    exact credited.whole.runPasses_payments permuted_credited

end History

/-! ## What stays open -/

theorem Direction.exists_sign_eq {amount : Int} (signed : amount ≠ 0) :
    ∃ direction : Direction, amount.sign = direction.sign := by
  rcases lt_or_gt_of_ne signed with negative | positive
  · exact ⟨.outbound, Int.sign_eq_neg_one_of_neg negative⟩
  · exact ⟨.inbound, Int.sign_eq_one_of_pos positive⟩

/-- Something is left of an amount only where there was something. -/
theorem Within.ne_zero {amount bound : Int} (within : Within amount bound) (ne : amount ≠ 0) :
    bound ≠ 0 := by
  rintro rfl
  exact ne within.eq_zero

namespace Book

variable {policy : LeftoverPolicy} {book : Book}

theorem Sound.debts_open_iff (sound : book.Sound policy) :
    (∃ debt ∈ book.debts, debt.IsOpen) ↔
      ∃ currency direction,
        book.outstanding (.ofDebts (fun _ => true) currency direction) ≠ 0 := by
  constructor
  · rintro ⟨debt, mem, debt_open⟩
    have within := (sound.debts debt mem).remaining_within
    obtain ⟨direction, sign_eq⟩ := Direction.exists_sign_eq (within.ne_zero debt_open)
    refine ⟨debt.currency, direction, fun nothing => ?_⟩
    have closed := (sound.outstanding_eq_zero_iff
      (Weights.positive_ofDebts (fun _ => true) debt.currency direction)).mp nothing
    refine debt_open (closed.1 debt mem ?_)
    simp only [Weights.ofDebts, sign_eq, and_self, if_true]
    exact direction.sign_ne_zero
  · rintro ⟨currency, direction, something⟩
    by_contra closed
    apply something
    apply outstanding_eq_zero
    · intro debt mem _
      exact not_not.mp fun debt_open => closed ⟨debt, mem, debt_open⟩
    · exact fun _ _ counts => absurd rfl counts

theorem Sound.funds_open_iff (sound : book.Sound policy) :
    (∃ fund ∈ book.funds, fund.IsOpen) ↔
      ∃ currency direction, book.outstanding (.ofFunds currency direction) ≠ 0 := by
  constructor
  · rintro ⟨fund, mem, fund_open⟩
    have within := (sound.funds fund mem).remaining_within
    obtain ⟨direction, sign_eq⟩ := Direction.exists_sign_eq (within.ne_zero fund_open)
    refine ⟨fund.currency, direction, fun nothing => ?_⟩
    have closed := (sound.outstanding_eq_zero_iff
      (Weights.positive_ofFunds fund.currency direction)).mp nothing
    refine fund_open (closed.2 fund mem ?_)
    rw [Weights.ofFunds_of_sign sign_eq, if_pos rfl]
    exact direction.sign_ne_zero
  · rintro ⟨currency, direction, something⟩
    by_contra closed
    apply something
    apply outstanding_eq_zero
    · exact fun _ _ counts => absurd rfl counts
    · intro fund mem _
      exact not_not.mp fun fund_open => closed ⟨fund, mem, fund_open⟩

end Book

namespace History

variable {policy : LeftoverPolicy} {first second : History}
  (permuted : Book.Permuted policy first.book second.book)
  (alike : Alike Weights.IsWhole first second)

include permuted alike

theorem Alike.debts_open :
    (∃ debt ∈ first.book.debts, debt.IsOpen) ↔ ∃ debt ∈ second.book.debts, debt.IsOpen := by
  rw [permuted.first_sound.debts_open_iff, permuted.second_sound.debts_open_iff]
  simp only [alike.outstanding _ (.debts _ _)]

theorem Alike.funds_open :
    (∃ fund ∈ first.book.funds, fund.IsOpen) ↔ ∃ fund ∈ second.book.funds, fund.IsOpen := by
  rw [permuted.first_sound.funds_open_iff, permuted.second_sound.funds_open_iff]
  simp only [alike.outstanding _ (.funds _ _)]

end History
end Settlement
