import Settlement.Proofs.Exact.Pools

/-!
# What a pass exchanges

A pass of pairings settles debts of one kind with documents of another.  For every two pools that
its deals move alike it settles the smaller of what both have left, and what it leaves of other
groups of documents follows from what it settles.
-/

namespace Settlement

/-! ## Who takes part -/

namespace CandidateKind

/-- Whether passes of the kind settle debts that say this. -/
def settles : CandidateKind → Debt.Terms → Bool
  | invoiceToCreditMemo, terms => !terms.creditMemo
  | salesInvoiceToPurchaseInvoice, terms => !terms.creditMemo && terms.side.isSales
  | invoiceToPayment, _ => true
  | _, _ => false

/-- Whether passes of the kind pay with the document. -/
def paysWith : CandidateKind → Source → Bool
  | invoiceToCreditMemo, .creditMemo memo => memo.creditMemo
  | salesInvoiceToPurchaseInvoice, .purchaseInvoice bill =>
      !bill.creditMemo && bill.side.isPurchase
  | invoiceToPayment, .fund _ => true
  | _, _ => false

/-- No debt is settled and paid with in passes of one kind. -/
theorem settles_eq_false {kind : CandidateKind} {debt : Debt}
    (pays : kind.paysWith (.creditMemo debt) = true ∨
      kind.paysWith (.purchaseInvoice debt) = true) : kind.settles debt.toTerms = false := by
  cases kind with
  | salesInvoiceToPurchaseInvoice =>
      cases side : debt.side with
      | sales => simp [paysWith, side, TradeSide.isPurchase] at pays
      | purchase => simp [settles, side, TradeSide.isSales]
  | _ => simp_all [settles, paysWith]

end CandidateKind

theorem mem_places_iff {α : Type} {property : α → Bool} {entries : List α} {index : Nat}
    {entry : α} (entry_eq : entries[index]? = some entry) :
    index ∈ places property entries ↔ property entry = true := by
  rw [mem_places]
  constructor
  · rintro ⟨found, found_eq, holds⟩
    exact Option.some.inj (entry_eq.symm.trans found_eq) ▸ holds
  · exact fun holds => ⟨entry, entry_eq, holds⟩

namespace Book

variable {policy : LeftoverPolicy} {book : Book}

theorem Serves.settles {kind : CandidateKind} {index : Nat} {means : Means}
    (serves : book.Serves kind index means) {debt : Debt} {source : Source}
    (debt_eq : book.debts[index]? = some debt) (source_eq : book.source? means = some source) :
    kind.settles debt.toTerms = true ∧ kind.paysWith source = true := by
  unfold Serves at serves
  split at serves
  · obtain ⟨⟨payee, payee_eq, plain⟩, memo, memo_eq, credit⟩ := serves
    obtain rfl := Option.some.inj (debt_eq.symm.trans payee_eq)
    rw [source?, memo_eq] at source_eq
    cases source_eq
    exact ⟨by simp [CandidateKind.settles, plain], credit⟩
  · obtain ⟨⟨payee, payee_eq, plain, sales⟩, bill, bill_eq, bill_plain, purchase⟩ := serves
    obtain rfl := Option.some.inj (debt_eq.symm.trans payee_eq)
    rw [source?, bill_eq] at source_eq
    cases source_eq
    constructor
    · simp [CandidateKind.settles, plain, sales, TradeSide.isSales]
    · simp [CandidateKind.paysWith, bill_plain, purchase, TradeSide.isPurchase]
  · obtain ⟨fund, -, rfl⟩ := Option.map_eq_some_iff.mp source_eq
    exact ⟨rfl, rfl⟩
  · exact serves.elim

/-- The lists name all debts that a pass of the kind settles and all documents it pays with. -/
structure Pairs (book : Book) (kind : CandidateKind) (payees : List Nat) (payers : List Means) :
    Prop where
  payee : ∀ (place : Nat) (debt : Debt), book.debts[place]? = some debt →
    (place ∈ payees ↔ kind.settles debt.toTerms = true)
  payer : ∀ (means : Means) (source : Source), book.source? means = some source →
    (means ∈ payers ↔ kind.paysWith source = true)

theorem pairs_creditMemos (book : Book) :
    book.Pairs .invoiceToCreditMemo (places (fun debt => !debt.creditMemo) book.debts)
      ((places (fun debt => debt.creditMemo) book.debts).map .creditMemo) where
  payee place debt debt_eq := mem_places_iff debt_eq
  payer means source source_eq := by
    rw [List.mem_map]
    cases means with
    | creditMemo index =>
        obtain ⟨memo, memo_eq, rfl⟩ := Option.map_eq_some_iff.mp source_eq
        have here : index ∈ places (fun debt => debt.creditMemo) book.debts ↔
            memo.creditMemo = true := mem_places_iff memo_eq
        simp only [Means.creditMemo.injEq, exists_eq_right, here, CandidateKind.paysWith]
    | purchaseInvoice index =>
        obtain ⟨memo, memo_eq, rfl⟩ := Option.map_eq_some_iff.mp source_eq
        simp [CandidateKind.paysWith]
    | payment index =>
        obtain ⟨memo, memo_eq, rfl⟩ := Option.map_eq_some_iff.mp source_eq
        simp [CandidateKind.paysWith]

theorem pairs_compensation (book : Book) :
    book.Pairs .salesInvoiceToPurchaseInvoice
      (places (fun debt => !debt.creditMemo && debt.side.isSales) book.debts)
      ((places (fun debt => !debt.creditMemo && debt.side.isPurchase) book.debts).map
        .purchaseInvoice) where
  payee place debt debt_eq := mem_places_iff debt_eq
  payer means source source_eq := by
    rw [List.mem_map]
    cases means with
    | purchaseInvoice index =>
        obtain ⟨bill, bill_eq, rfl⟩ := Option.map_eq_some_iff.mp source_eq
        have here :
            index ∈ places (fun debt => !debt.creditMemo && debt.side.isPurchase) book.debts ↔
              (!bill.creditMemo && bill.side.isPurchase) = true := mem_places_iff bill_eq
        simp only [Means.purchaseInvoice.injEq, exists_eq_right, here, CandidateKind.paysWith]
    | creditMemo index =>
        obtain ⟨bill, bill_eq, rfl⟩ := Option.map_eq_some_iff.mp source_eq
        simp [CandidateKind.paysWith]
    | payment index =>
        obtain ⟨bill, bill_eq, rfl⟩ := Option.map_eq_some_iff.mp source_eq
        simp [CandidateKind.paysWith]

theorem pairs_payments (book : Book) :
    book.Pairs .invoiceToPayment (List.range book.debts.length)
      ((List.range book.funds.length).map .payment) where
  payee place debt debt_eq := by
    have bound := (List.getElem?_eq_some_iff.mp debt_eq).1
    simp [CandidateKind.settles, bound]
  payer means source source_eq := by
    rw [List.mem_map]
    cases means with
    | payment index =>
        obtain ⟨fund, fund_eq, rfl⟩ := Option.map_eq_some_iff.mp source_eq
        have bound := (List.getElem?_eq_some_iff.mp fund_eq).1
        simp [CandidateKind.paysWith, bound]
    | creditMemo index =>
        obtain ⟨debt, debt_eq, rfl⟩ := Option.map_eq_some_iff.mp source_eq
        simp [CandidateKind.paysWith]
    | purchaseInvoice index =>
        obtain ⟨debt, debt_eq, rfl⟩ := Option.map_eq_some_iff.mp source_eq
        simp [CandidateKind.paysWith]

end Book

/-! ## What is paid -/

/-- The kind of candidate that a step proposes. -/
def Step.kind : Step → CandidateKind
  | pair kind _ _ => kind
  | leftover _ | remainder _ => .invoiceDiscountOrWriteOff
  | reverse _ _ => .inboundPaymentToOutboundPayment

theorem Book.Deals.kind_eq {policy : LeftoverPolicy} {book : Book} {step : Step} {deal : Deal}
    (dealt : Deals policy book step deal) : deal.entry.kind = step.kind := by
  cases dealt <;> rfl

namespace History

variable {policy : LeftoverPolicy} {history : History}

/-- What the deals have paid whose entries count. -/
def paidBy (counts : Entry → Prop) [DecidablePred counts] (history : History) : Int :=
  (history.deals.map fun deal => if counts deal.entry then deal.entry.parts.pay else 0).sum

theorem paidBy_record (counts : Entry → Prop) [DecidablePred counts] (history : History)
    (deal : Deal) :
    (history.record deal).paidBy counts =
      history.paidBy counts + if counts deal.entry then deal.entry.parts.pay else 0 := by
  simp [paidBy, record]

/-- Steps whose deals do not count pay nothing that does. -/
theorem runAll_paidBy {counts : Entry → Prop} [DecidablePred counts]
    (sound : history.book.Sound policy) {steps : List Step}
    (placed : ∀ step ∈ steps, history.book.Placed step)
    (others : ∀ step ∈ steps, ∀ entry : Entry, entry.kind = step.kind → ¬counts entry) :
    (history.runAll policy steps).1.paidBy counts = history.paidBy counts := by
  apply runAll_induction sound placed
    (motive := fun reached => reached.paidBy counts = history.paidBy counts) rfl
  intro reached step deal mem reached_sound here dealt ih
  rw [paidBy_record, if_neg (others step mem deal.entry dealt.kind_eq), add_zero, ih]

/-- What the deals of a kind have paid in a currency. -/
def paid (kind : CandidateKind) (currency : Currency) (history : History) : Int :=
  (history.deals.map fun deal =>
    if deal.entry.kind = kind ∧ deal.entry.currency = currency then
      deal.entry.parts.pay
    else
      0).sum

theorem paid_eq_paidBy (kind : CandidateKind) (currency : Currency) (history : History) :
    history.paid kind currency =
      history.paidBy fun entry => entry.kind = kind ∧ entry.currency = currency := rfl

theorem paid_record (kind : CandidateKind) (currency : Currency) (history : History)
    (deal : Deal) :
    (history.record deal).paid kind currency =
      history.paid kind currency +
        if deal.entry.kind = kind ∧ deal.entry.currency = currency then
          deal.entry.parts.pay
        else
          0 :=
  paidBy_record (fun entry => entry.kind = kind ∧ entry.currency = currency) history deal

/-- Steps of other kinds pay nothing of a kind. -/
theorem runAll_paid_of_ne (sound : history.book.Sound policy) {steps : List Step}
    (placed : ∀ step ∈ steps, history.book.Placed step) {kind : CandidateKind}
    (others : ∀ step ∈ steps, step.kind ≠ kind) (currency : Currency) :
    (history.runAll policy steps).1.paid kind currency = history.paid kind currency := by
  rw [paid_eq_paidBy, paid_eq_paidBy]
  apply runAll_paidBy sound placed
  rintro step mem entry kind_eq ⟨same, -⟩
  exact others step mem (kind_eq.symm.trans same)

end History

/-- Two open sides of a deal have the same sign. -/
theorem Source.Fits.sign_eq {source : Source} {debt : Debt} (fits : source.Fits debt)
    (debt_within : Within debt.remaining.pay debt.initial.pay)
    (source_within : Within source.remaining source.initial) (debt_open : debt.IsOpen)
    (source_open : source.IsOpen) :
    debt.initial.pay.sign = source.initial.sign ∧ debt.initial.pay.sign ≠ 0 := by
  have same := fits.2
  unfold Debt.IsOpen Source.IsOpen at *
  unfold Within at *
  rcases lt_trichotomy debt.initial.pay 0 with negative | nothing | positive
  · rw [Int.sign_eq_neg_one_of_neg negative, Int.sign_eq_neg_one_of_neg (same.mp negative)]
    decide
  · omega
  · have source_positive : 0 < source.initial := by omega
    rw [Int.sign_eq_one_of_pos positive, Int.sign_eq_one_of_pos source_positive]
    decide

/-- What a document takes of a debt that it fits has the sign of the debt. -/
theorem Source.Fits.share_sign {source : Source} {debt : Debt} (fits : source.Fits debt)
    (debt_within : Within debt.remaining.pay debt.initial.pay)
    (source_within : Within source.remaining source.initial) (debt_open : debt.IsOpen)
    (source_open : source.IsOpen) : (source.share debt).sign = debt.initial.pay.sign := by
  have same := fits.2
  unfold Debt.IsOpen Source.IsOpen at *
  unfold Within at *
  rcases lt_trichotomy debt.initial.pay 0 with negative | nothing | positive
  · have share_neg : source.share debt < 0 := by
      have source_negative := same.mp negative
      unfold share
      split_ifs <;> omega
    rw [Int.sign_eq_neg_one_of_neg share_neg, Int.sign_eq_neg_one_of_neg negative]
  · omega
  · have share_pos : 0 < source.share debt := by
      have source_nonneg : ¬source.initial < 0 := fun below => by omega
      unfold share
      split_ifs <;> omega
    rw [Int.sign_eq_one_of_pos share_pos, Int.sign_eq_one_of_pos positive]

/-- What a pairing of the kind does to weighed books. -/
structure Book.Paired (book : Book) (kind : CandidateKind) (deal : Deal) (debt : Debt)
    (source : Source) : Prop where
  settles : kind.settles debt.toTerms = true
  pays : kind.paysWith source = true
  can : source.CanPay debt
  same_sign : debt.initial.pay.sign = source.initial.sign
  signed : debt.initial.pay.sign ≠ 0
  kind_eq : deal.entry.kind = kind
  currency_eq : deal.entry.currency = debt.currency
  pay_sign : deal.entry.parts.pay.sign = debt.initial.pay.sign
  /-- What it pays counts on both of its sides. -/
  settled_eq : ∀ weights : Weights, deal.after.settled weights =
    book.settled weights +
      (weights.debt debt.toTerms + weights.source source) * deal.entry.parts.pay

/-- A step of a pass of pairings takes the leftover of a debt, which does not count, or pairs. -/
theorem Book.Deals.pairing_cases {policy : LeftoverPolicy} {book : Book} {kind : CandidateKind}
    {payees : List Nat} {payers : List Means} {step : Step} {deal : Deal}
    (dealt : Deals policy book step deal) (sound : book.Sound policy) (placed : book.Placed step)
    (mem : step ∈ Step.pairAll kind payees payers) :
    (deal.entry.kind = .invoiceDiscountOrWriteOff ∧
        ∀ weights, deal.after.settled weights = book.settled weights) ∨
      ∃ debt source, book.Paired kind deal debt source := by
  obtain ⟨-, index, -, ⟨means, -, rfl⟩ | rfl⟩ := Step.mem_pairAll.mp mem
  · right
    cases dealt with
    | pair debt_eq source_eq debt_open source_open fits =>
        rename_i debt source
        have debt_within := (sound.debt debt_eq).remaining_within
        have source_within := sound.source_within source_eq
        obtain ⟨settles, pays⟩ := Serves.settles placed debt_eq source_eq
        obtain ⟨same_sign, signed⟩ := fits.sign_eq debt_within source_within debt_open source_open
        exact ⟨debt, source, settles, pays, fits.1, same_sign, signed, rfl, rfl,
          fits.share_sign debt_within source_within debt_open source_open,
          fun weights => settled_pair weights placed debt_eq source_eq⟩
  · left
    cases dealt with
    | leftover debt_eq debt_open moves =>
        exact ⟨rfl, fun weights => settled_leftover weights debt_eq moves⟩

/-- Every pairing of the kind adds to the weighed number its amount, so many times, where it is in
the currency, and nothing otherwise. -/
def Weights.Gains (weights : Weights) (kind : CandidateKind) (currency : Currency)
    (times : Int) : Prop :=
  ∀ (debt : Debt) (source : Source), kind.settles debt.toTerms = true →
    kind.paysWith source = true → source.CanPay debt →
      debt.initial.pay.sign = source.initial.sign → debt.initial.pay.sign ≠ 0 →
        weights.debt debt.toTerms + weights.source source =
          if debt.currency = currency then times else 0

namespace History

variable {policy : LeftoverPolicy} {history : History} {kind : CandidateKind}

/-- Where every deal adds to the weighed number what it pays, so many times, if its entry counts, a
run adds what its deals pay together. -/
theorem runAll_gainBy (sound : history.book.Sound policy) {steps : List Step}
    (placed : ∀ step ∈ steps, history.book.Placed step) {weights : Weights}
    {counts : Entry → Prop} [DecidablePred counts] {times : Int}
    (gains : ∀ (book : Book) (step : Step) (deal : Deal), step ∈ steps → book.Sound policy →
      book.Placed step → Book.Deals policy book step deal →
        deal.after.settled weights =
          book.settled weights + times * if counts deal.entry then deal.entry.parts.pay else 0) :
    (history.runAll policy steps).1.book.settled weights - history.book.settled weights =
      times * ((history.runAll policy steps).1.paidBy counts - history.paidBy counts) := by
  apply runAll_induction sound placed (motive := fun reached =>
    reached.book.settled weights - history.book.settled weights =
      times * (reached.paidBy counts - history.paidBy counts))
  · rw [sub_self, sub_self, mul_zero]
  intro reached step deal mem reached_sound here dealt ih
  rw [paidBy_record, record, gains _ step deal mem reached_sound here dealt,
    ← sub_add_eq_add_sub, ih]
  ring

/-- Along pairings of a kind, the weighed number grows with what they pay. -/
theorem runAll_gain (sound : history.book.Sound policy) {payees : List Nat} {payers : List Means}
    (placed : ∀ step ∈ Step.pairAll kind payees payers, history.book.Placed step)
    (two_sided : kind ≠ .invoiceDiscountOrWriteOff) {weights : Weights} {currency : Currency}
    {times : Int} (gains : weights.Gains kind currency times) :
    (history.runAll policy (Step.pairAll kind payees payers)).1.book.settled weights -
        history.book.settled weights =
      times * ((history.runAll policy (Step.pairAll kind payees payers)).1.paid kind currency -
        history.paid kind currency) := by
  rw [paid_eq_paidBy, paid_eq_paidBy]
  apply runAll_gainBy sound placed
  intro book step deal mem book_sound here dealt
  rcases dealt.pairing_cases book_sound here mem with ⟨kind_eq, kept⟩ | ⟨debt, source, paired⟩
  · rw [kept, if_neg fun same => two_sided (same.1.symm.trans kind_eq), mul_zero, add_zero]
  · rw [paired.settled_eq, gains debt source paired.settles paired.pays paired.can
      paired.same_sign paired.signed, paired.kind_eq, paired.currency_eq]
    simp only [true_and]
    split_ifs <;> ring

end History

/-! ## Pools of a pass -/

/-- Two pools that passes of a kind settle with each other, and with nothing else: the debts of
the one and the documents of the other fit, and every deal moves both alike. -/
structure Weights.Pool (kind : CandidateKind) (owes pool : Weights) : Prop where
  owes_positive : owes.Positive
  pool_positive : pool.Positive
  owes_debt : ∀ terms : Debt.Terms, owes.debt terms ≠ 0 → kind.settles terms = true
  owes_fund : ∀ terms : Fund.Terms, owes.fund terms = 0
  pool_debt : ∀ debt : Debt, pool.debt debt.toTerms ≠ 0 →
    kind.paysWith (.creditMemo debt) = true ∨ kind.paysWith (.purchaseInvoice debt) = true
  pool_fund : ∀ fund : Fund, pool.fund fund.toTerms ≠ 0 → kind.paysWith (.fund fund) = true
  fits : ∀ (debt : Debt) (source : Source), kind.paysWith source = true →
    owes.debt debt.toTerms ≠ 0 → pool.source source ≠ 0 → source.Fits debt
  even : ∀ currency, (owes + -pool).Gains kind currency 0

namespace History

variable {policy : LeftoverPolicy} {history : History} {kind : CandidateKind}
  {payees : List Nat} {payers : List Means}

section

variable (sound : history.book.Sound policy)
  (placed : ∀ step ∈ Step.pairAll kind payees payers, history.book.Placed step)

include sound placed

/-- Nothing is waived of a debt that the pass does not settle. -/
theorem waived_of_unsettled (pairs : history.book.Pairs kind payees payers) {place : Nat}
    {debt found : Debt} (debt_eq : history.book.debts[place]? = some debt)
    (found_eq : (history.runAll policy (Step.pairAll kind payees payers)).1.book.debts[place]? =
      some found) (unsettled : kind.settles debt.toTerms = false) :
    found.waived = debt.waived := by
  apply runAll_waived sound placed debt_eq found_eq
  intro mem
  obtain ⟨-, index, index_mem, ⟨means, -, same⟩ | same⟩ := Step.mem_pairAll.mp mem
  · cases same
  · cases same
    have settled := (pairs.payee place debt debt_eq).mp index_mem
    rw [unsettled] at settled
    cases settled

variable (ended : (history.runAll policy (Step.pairAll kind payees payers)).2 = none)
  (pairs : history.book.Pairs kind payees payers)

include ended pairs

/-- A debt that is not paid in full has used up the pool that it could be paid from. -/
theorem usesUp_of_unpaid {owes pool : Weights} (pooled : Weights.Pool kind owes pool)
    {index : Nat} {debt rest : Debt} (debt_eq : history.book.debts[index]? = some debt)
    (rest_eq : (history.runAll policy (Step.pairAll kind payees payers)).1.book.debts[index]? =
      some rest) (counts : owes.debt debt.toTerms ≠ 0)
    (unpaid : rest.allocated.pay ≠ debt.allocated.pay + debt.remaining.pay) :
    Book.UsesUp pool history.book
      (history.runAll policy (Step.pairAll kind payees payers)).1.book := by
  have payee := (pairs.payee index debt debt_eq).mpr (pooled.owes_debt _ counts)
  have pays := Book.pays_runAll sound placed
  -- A document that pays for the pool is among the payers, and the unpaid debt has used it up.
  have used : ∀ (means : Means) (source spent : Source),
      history.book.source? means = some source →
      (history.runAll policy (Step.pairAll kind payees payers)).1.book.source? means = some spent →
      kind.paysWith source = true → pool.source source ≠ 0 → spent.remaining = 0 := by
    intro means source spent source_eq spent_eq pays_with pool_counts
    have payer := (pairs.payer means source source_eq).mpr pays_with
    have fits := pooled.fits debt source pays_with counts pool_counts
    exact (paid_or_used sound placed ended payee payer debt_eq source_eq fits rest_eq
      spent_eq).resolve_left unpaid
  apply pays.usesUp
  · intro place given found given_eq found_eq pool_counts
    have pool_counts' : -pool.debt given.toTerms ≠ 0 := neg_ne_zero.mpr pool_counts
    have pays_with := pooled.pool_debt given pool_counts
    have nothing_left : -found.remaining.pay = 0 := by
      rcases pays_with with memo | bill
      · exact used (.creditMemo place) (.creditMemo given) (.creditMemo found)
          (congrArg (Option.map Source.creditMemo) given_eq)
          (congrArg (Option.map Source.creditMemo) found_eq) memo pool_counts'
      · exact used (.purchaseInvoice place) (.purchaseInvoice given) (.purchaseInvoice found)
          (congrArg (Option.map Source.purchaseInvoice) given_eq)
          (congrArg (Option.map Source.purchaseInvoice) found_eq) bill pool_counts'
    exact ⟨neg_eq_zero.mp nothing_left, waived_of_unsettled sound placed pairs given_eq found_eq
      (CandidateKind.settles_eq_false pays_with)⟩
  · intro place given found given_eq found_eq pool_counts
    exact used (.payment place) (.fund given) (.fund found)
      (congrArg (Option.map Source.fund) given_eq) (congrArg (Option.map Source.fund) found_eq)
      (pooled.pool_fund given pool_counts) pool_counts

/-- A pass settles between two of its pools the smaller of what both have left. -/
theorem settled_pool (two_sided : kind ≠ .invoiceDiscountOrWriteOff) {owes pool : Weights}
    (pooled : Weights.Pool kind owes pool) :
    (history.runAll policy (Step.pairAll kind payees payers)).1.book.settled owes =
      history.book.settled owes +
        min (history.book.outstanding owes) (history.book.outstanding pool) := by
  have pays := Book.pays_runAll sound placed
  apply pays.settled_min pooled.owes_positive pooled.pool_positive
  · have even := runAll_gain sound placed two_sided (pooled.even .usd)
    simp only [Book.settled, Book.weigh_add, Book.weigh_neg, zero_mul] at even ⊢
    omega
  · by_cases paid : ∀ (place : Nat) (debt rest : Debt), history.book.debts[place]? = some debt →
      (history.runAll policy (Step.pairAll kind payees payers)).1.book.debts[place]? = some rest →
        owes.debt debt.toTerms ≠ 0 →
          rest.allocated.pay = debt.allocated.pay + debt.remaining.pay
    · exact .inl ⟨paid, fun _ _ _ _ _ counts => absurd (pooled.owes_fund _) counts⟩
    · push Not at paid
      obtain ⟨place, debt, rest, debt_eq, rest_eq, counts, unpaid⟩ := paid
      exact .inr (usesUp_of_unpaid sound placed ended pairs pooled debt_eq rest_eq counts unpaid)

end

end History

/-! ## What a pass leaves -/

namespace History

/-- What a pass of pairings of a kind does to weighed books.  A pass that sweeps deals with the
leftovers of all debts that it settles. -/
structure Exchanges (kind : CandidateKind) (swept : Prop) (before after : History) : Prop where
  /-- Of two of its pools it settles the smaller. -/
  pool : ∀ {owes pool : Weights}, Weights.Pool kind owes pool →
    after.book.settled owes =
      before.book.settled owes + min (before.book.outstanding owes) (before.book.outstanding pool)
  /-- What it settles is what it pays. -/
  gain : ∀ {weights : Weights} {currency : Currency} {times : Int},
    weights.Gains kind currency times →
      after.book.settled weights - before.book.settled weights =
        times * (after.paid kind currency - before.paid kind currency)
  /-- It pays nothing of other kinds. -/
  others : ∀ (other : CandidateKind) (currency : Currency), other ≠ kind →
    other ≠ .invoiceDiscountOrWriteOff → after.paid other currency = before.paid other currency
  /-- What it settles is taken off what was left, unless it sweeps. -/
  kept : ∀ weights : Weights,
    (swept → ∀ terms : Debt.Terms, weights.debt terms ≠ 0 → kind.settles terms = false) →
      after.book.settled weights + after.book.outstanding weights =
        before.book.settled weights + before.book.outstanding weights
  /-- Where it sweeps, nothing is left of the debts that it settles. -/
  cleared : swept → ∀ {weights : Weights},
    (∀ terms : Debt.Terms, weights.debt terms ≠ 0 → kind.settles terms = true) →
      (∀ terms : Fund.Terms, weights.fund terms = 0) → after.book.outstanding weights = 0

variable {policy : LeftoverPolicy} {history : History} {kind : CandidateKind}
  {payees : List Nat} {payers : List Means}

theorem exchanges_runAll (sound : history.book.Sound policy)
    (placed : ∀ step ∈ Step.pairAll kind payees payers, history.book.Placed step)
    (ended : (history.runAll policy (Step.pairAll kind payees payers)).2 = none)
    (pairs : history.book.Pairs kind payees payers)
    (two_sided : kind ≠ .invoiceDiscountOrWriteOff) :
    Exchanges kind (policy ≠ .leaveOpen ∧ payers ≠ []) history
      (history.runAll policy (Step.pairAll kind payees payers)).1 where
  pool pooled := settled_pool sound placed ended pairs two_sided pooled
  gain gains := runAll_gain sound placed two_sided gains
  others other currency ne two_sided_other := by
    apply runAll_paid_of_ne sound placed
    intro step mem
    obtain ⟨-, index, -, ⟨means, -, rfl⟩ | rfl⟩ := Step.mem_pairAll.mp mem
    · exact ne.symm
    · exact two_sided_other.symm
  kept weights spared := by
    by_cases swept : policy ≠ .leaveOpen ∧ payers ≠ []
    · apply (Book.pays_runAll sound placed).outstanding_add_settled
      intro place given found given_eq found_eq counts
      exact waived_of_unsettled sound placed pairs given_eq found_eq (spared swept _ counts)
    · rcases not_and_or.mp swept with leaves | no_payers
      · apply (Book.pays_runAll sound placed).outstanding_add_settled
        intro place given found given_eq found_eq counts
        have leaves_open := not_not.mp leaves
        rw [((later_runAll sound placed).sound.debt found_eq).waived_open leaves_open,
          (sound.debt given_eq).waived_open leaves_open]
      · rw [not_not.mp no_payers]
        rfl
  cleared swept weights settles no_funds := by
    apply Book.outstanding_eq_zero
    · intro found mem counts
      obtain ⟨place, found_eq⟩ := List.mem_iff_getElem?.mp mem
      obtain ⟨given, given_eq, grown⟩ :=
        forall₂_getElem?_right (later_runAll sound placed).debts found_eq
      rw [grown.terms_eq] at counts
      exact closed_of_leftover sound placed ended swept.1 swept.2
        ((pairs.payee place given given_eq).mpr (settles _ counts)) found_eq
    · exact fun fund mem counts => absurd (no_funds _) counts

end History

end Settlement
