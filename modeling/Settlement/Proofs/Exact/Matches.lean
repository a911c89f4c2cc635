import Mathlib.Data.Finset.Card
import Settlement.Proofs.Exact.Contributions
import Settlement.Proofs.Exact.Exchanges
import Settlement.Proofs.Exact.Moves

/-!
# Moves that match two documents

A move whose entry names a payment matches two open documents with each other.  It settles as much
as both have left and so closes one of them.  No move opens a document again: the open documents
become fewer with every match, and no two documents are matched twice.
-/

namespace Settlement

/-! ## Balances -/

/-- What a document started with and what is left of it. -/
structure Balance (α : Type) where
  reference : Reference
  initial : α
  remaining : α
  deriving DecidableEq, Repr

/-- The balance of a debt is that of its pay amount. -/
def Debt.balance (debt : Debt) : Balance Int :=
  ⟨debt.reference, debt.initial.pay, debt.remaining.pay⟩

/-- The balance of a fund. -/
def Fund.balance (fund : Fund) : Balance Int := ⟨fund.reference, fund.initial, fund.remaining⟩

/-- The balance of a document that acts as a payment, with the sign that the document itself
has. -/
def Source.balance : Source → Balance Int
  | fund document => document.balance
  | creditMemo document | purchaseInvoice document => document.balance

namespace Book

/-- The balances of all documents. -/
def balances (book : Book) : List (Balance Int) :=
  book.debts.map Debt.balance ++ book.funds.map Fund.balance

variable {policy : LeftoverPolicy} {before book after : Book}

theorem references_eq_balances (book : Book) :
    book.references = book.balances.map Balance.reference := by
  rw [references, balances, List.map_append, List.map_map, List.map_map]
  rfl

theorem length_balances (book : Book) :
    book.balances.length = book.debts.length + book.funds.length := by
  rw [balances, List.length_append, List.length_map, List.length_map]

theorem debt_balance_mem {index : Nat} {debt : Debt} (debt_eq : book.debts[index]? = some debt) :
    debt.balance ∈ book.balances :=
  List.mem_append_left _ (List.mem_map_of_mem (List.mem_of_getElem? debt_eq))

theorem fund_balance_mem {index : Nat} {fund : Fund} (fund_eq : book.funds[index]? = some fund) :
    fund.balance ∈ book.balances :=
  List.mem_append_right _ (List.mem_map_of_mem (List.mem_of_getElem? fund_eq))

theorem source_balance_mem {means : Means} {source : Source}
    (source_eq : book.source? means = some source) : source.balance ∈ book.balances := by
  cases means with
  | payment index =>
      obtain ⟨fund, fund_eq, rfl⟩ := Option.map_eq_some_iff.mp source_eq
      exact fund_balance_mem fund_eq
  | creditMemo index =>
      obtain ⟨debt, debt_eq, rfl⟩ := Option.map_eq_some_iff.mp source_eq
      exact debt_balance_mem debt_eq
  | purchaseInvoice index =>
      obtain ⟨debt, debt_eq, rfl⟩ := Option.map_eq_some_iff.mp source_eq
      exact debt_balance_mem debt_eq

/-- A balance with a reference after some more deals has been one with the same reference before,
and nothing is left of it if nothing was left then. -/
theorem Later.balance_before (later : Later policy before after) {balance : Balance Int}
    (mem : balance ∈ after.balances) :
    ∃ given ∈ before.balances, given.reference = balance.reference ∧
      (given.remaining = 0 → balance.remaining = 0) := by
  rcases List.mem_append.mp mem with debt_mem | fund_mem
  · obtain ⟨debt, found_mem, rfl⟩ := List.mem_map.mp debt_mem
    obtain ⟨given, given_mem, step⟩ := forall₂_mem_right later.debts found_mem
    refine ⟨given.balance, List.mem_append_left _ (List.mem_map_of_mem given_mem), ?_, ?_⟩
    · exact congrArg Debt.Terms.reference step.terms_eq.symm
    · exact fun nothing => Within.eq_zero (nothing ▸ step.pay)
  · obtain ⟨fund, found_mem, rfl⟩ := List.mem_map.mp fund_mem
    obtain ⟨given, given_mem, step⟩ := forall₂_mem_right later.funds found_mem
    refine ⟨given.balance, List.mem_append_right _ (List.mem_map_of_mem given_mem), ?_, ?_⟩
    · exact congrArg Fund.Terms.reference step.terms_eq.symm
    · exact fun nothing => Within.eq_zero (nothing ▸ step.remaining)

/-! ## Open documents -/

/-- The references of the documents of which something is left. -/
def openReferences (book : Book) : Finset Reference :=
  ((book.balances.filter fun balance => balance.remaining ≠ 0).map Balance.reference).toFinset

theorem mem_openReferences {reference : Reference} :
    reference ∈ book.openReferences ↔
      ∃ balance ∈ book.balances, balance.remaining ≠ 0 ∧ balance.reference = reference := by
  simp only [openReferences, List.mem_toFinset, List.mem_map, List.mem_filter, decide_eq_true_eq,
    and_assoc]

theorem card_openReferences_le (book : Book) :
    book.openReferences.card ≤ book.debts.length + book.funds.length := by
  calc book.openReferences.card
      ≤ ((book.balances.filter fun balance => balance.remaining ≠ 0).map
          Balance.reference).length := List.toFinset_card_le _
    _ = (book.balances.filter fun balance => balance.remaining ≠ 0).length := List.length_map _
    _ ≤ book.balances.length := List.length_filter_le _ _
    _ = book.debts.length + book.funds.length := book.length_balances

/-- No document is opened again. -/
theorem Later.openReferences_subset (later : Later policy before after) :
    after.openReferences ⊆ before.openReferences := by
  intro reference mem
  obtain ⟨balance, balance_mem, still_open, rfl⟩ := mem_openReferences.mp mem
  obtain ⟨given, given_mem, reference_eq, closed⟩ := later.balance_before balance_mem
  exact mem_openReferences.mpr ⟨given, given_mem, fun nothing => still_open (closed nothing),
    reference_eq⟩

theorem Distinct.balance_unique (distinct : book.Distinct) {balance other : Balance Int}
    (mem : balance ∈ book.balances) (other_mem : other ∈ book.balances)
    (same : balance.reference = other.reference) : balance = other := by
  rw [Distinct, references_eq_balances] at distinct
  exact List.inj_on_of_nodup_map distinct mem other_mem same

/-- Where no reference stands for two documents, a closed document is not among the open ones. -/
theorem Distinct.notMem_openReferences (distinct : book.Distinct) {balance : Balance Int}
    (mem : balance ∈ book.balances) (closed : balance.remaining = 0) :
    balance.reference ∉ book.openReferences := by
  intro still_open
  obtain ⟨other, other_mem, other_open, same⟩ := mem_openReferences.mp still_open
  rw [distinct.balance_unique other_mem mem same] at other_open
  exact other_open closed

end Book

/-! ## One match -/

/-- A move matches two documents: it settles of the one what the other pays, as much as both have
left, and leaves nothing of one of them. -/
structure Move.Matches (move : Move) (paid paying : Balance Int) : Prop where
  paid_mem : paid ∈ move.before.balances
  paying_mem : paying ∈ move.before.balances
  payable_eq : move.deal.entry.payable = paid.reference
  payment_eq : move.deal.entry.payment = some paying.reference
  pay_ne : move.deal.entry.parts.pay ≠ 0
  sign_eq : move.deal.entry.parts.pay.sign = paid.initial.sign
  natAbs_eq : move.deal.entry.parts.pay.natAbs =
    min paid.remaining.natAbs paying.remaining.natAbs
  closes : ∃ closed ∈ move.deal.after.balances, closed.remaining = 0 ∧
    (closed.reference = paid.reference ∨ closed.reference = paying.reference)

namespace Source

theorem reference_balance (source : Source) : source.balance.reference = source.reference := by
  cases source <;> rfl

theorem natAbs_balance (source : Source) :
    source.balance.remaining.natAbs = source.remaining.natAbs := by
  cases source with
  | fund document => rfl
  | creditMemo document => exact (Int.natAbs_neg _).symm
  | purchaseInvoice document => exact (Int.natAbs_neg _).symm

theorem reference_draw (source : Source) (amount : Int) :
    (source.draw amount).reference = source.reference := by
  cases source <;> rfl

/-- What is left of two documents that fit each other has the same sign. -/
theorem Fits.remaining_sign {source : Source} {debt : Debt} (fits : source.Fits debt)
    (debt_within : Within debt.remaining.pay debt.initial.pay)
    (source_within : Within source.remaining source.initial) (debt_open : debt.IsOpen)
    (source_open : source.IsOpen) : debt.remaining.pay < 0 ↔ source.remaining < 0 := by
  have same := fits.2
  unfold Debt.IsOpen Source.IsOpen Within at *
  omega

/-- The share of two documents that fit each other is the smaller of what both have left. -/
theorem Fits.natAbs_share {source : Source} {debt : Debt} (fits : source.Fits debt)
    (debt_within : Within debt.remaining.pay debt.initial.pay)
    (source_within : Within source.remaining source.initial) (debt_open : debt.IsOpen)
    (source_open : source.IsOpen) :
    (source.share debt).natAbs = min debt.remaining.pay.natAbs source.remaining.natAbs := by
  have same := fits.remaining_sign debt_within source_within debt_open source_open
  unfold share
  split_ifs <;> omega

end Source

namespace Book

variable {policy : LeftoverPolicy} {book : Book}

/-- A pairing matches the debt with the document that pays it. -/
theorem matches_pair (sound : book.Sound policy) {kind : CandidateKind} {index : Nat}
    {means : Means} (serves : book.Serves kind index means) {debt : Debt} {source : Source}
    (debt_eq : book.debts[index]? = some debt) (source_eq : book.source? means = some source)
    (debt_open : debt.IsOpen) (source_open : source.IsOpen) (fits : source.Fits debt) :
    Move.Matches
      ⟨book,
        { entry := pairEntry kind debt source (offer debt source)
          after := (book.charge index (offer debt source)).draw means (source.share debt) }⟩
      debt.balance source.balance := by
  have debt_within := (sound.debt debt_eq).remaining_within
  have source_within := sound.source_within source_eq
  have magnitude := fits.natAbs_share debt_within source_within debt_open source_open
  have charged := (serves.source?_charge (offer debt source)).trans source_eq
  have drawn := source?_draw (source.share debt) charged
  have charged_debt := (serves.getElem?_draw _ (source.share debt)).trans
    (getElem?_changeDebt_self (·.charge (offer debt source)) debt_eq)
  refine
    { paid_mem := debt_balance_mem debt_eq
      paying_mem := source_balance_mem source_eq
      payable_eq := rfl
      payment_eq := congrArg some source.reference_balance.symm
      pay_ne := ?_
      sign_eq := fits.share_sign debt_within source_within debt_open source_open
      natAbs_eq := magnitude.trans (by rw [source.natAbs_balance]; rfl)
      closes := ?_ }
  · have debt_some := Int.natAbs_pos.mpr debt_open
    have source_some := Int.natAbs_pos.mpr source_open
    exact Int.natAbs_pos.mp (magnitude ▸ lt_min debt_some source_some)
  · rcases Source.share_exhausts debt_within source_within fits.2 with nothing | nothing
    · exact ⟨_, debt_balance_mem charged_debt, nothing, .inl rfl⟩
    · refine ⟨_, source_balance_mem drawn, ?_, .inr ?_⟩
      · rw [← Int.natAbs_eq_zero, Source.natAbs_balance, Source.remaining_draw, nothing]
        rfl
      · rw [Source.reference_balance, Source.reference_draw, Source.reference_balance]

/-- A payment received and a payment made are set against each other for the smaller of what both
have left. -/
theorem natAbs_offset {received made : Fund} (received_pos : 0 < received.remaining)
    (made_neg : made.remaining < 0) :
    (offset received made).natAbs = min made.remaining.natAbs received.remaining.natAbs := by
  unfold offset
  omega

/-- Nothing is left of one of them. -/
theorem offset_exhausts (received made : Fund) :
    (made.draw (offset received made)).remaining = 0 ∨
      (received.draw (-offset received made)).remaining = 0 := by
  rw [Fund.remaining_draw, Fund.remaining_draw, offset]
  omega

/-- A reversal matches the payment made with the payment received. -/
theorem matches_reverse (sound : book.Sound policy) {inbound outbound : Nat}
    (placed : book.Placed (.reverse inbound outbound)) {received made : Fund}
    (received_eq : book.funds[inbound]? = some received)
    (made_eq : book.funds[outbound]? = some made) (received_open : received.IsOpen)
    (made_open : made.IsOpen) :
    Move.Matches
      ⟨book,
        { entry := reversalEntry received made (offset received made)
          after :=
            (book.changeFund outbound (·.draw (offset received made))).changeFund inbound
              (·.draw (-offset received made)) }⟩
      made.balance received.balance := by
  obtain ⟨received_pos, made_neg⟩ :=
    placed.reverse_signs sound received_eq made_eq received_open made_open
  have made_within := (sound.fund made_eq).remaining_within
  have initial_neg : made.initial < 0 := by
    unfold Within at made_within
    omega
  have offset_neg : offset received made < 0 := by
    unfold offset
    omega
  have ne := Placed.reverse_ne placed
  have drawn_made := (getElem?_changeFund_ne ne (·.draw (-offset received made))).trans
    (getElem?_changeFund_self (·.draw (offset received made)) made_eq)
  have drawn_received := getElem?_changeFund_self (·.draw (-offset received made))
    ((getElem?_changeFund_ne ne.symm (·.draw (offset received made))).trans received_eq)
  refine
    { paid_mem := fund_balance_mem made_eq
      paying_mem := fund_balance_mem received_eq
      payable_eq := rfl
      payment_eq := rfl
      pay_ne := offset_neg.ne
      sign_eq :=
        (Int.sign_eq_neg_one_of_neg offset_neg).trans
          (Int.sign_eq_neg_one_of_neg initial_neg).symm
      natAbs_eq := natAbs_offset received_pos made_neg
      closes := ?_ }
  rcases offset_exhausts received made with nothing | nothing
  · exact ⟨_, fund_balance_mem drawn_made, nothing, .inl rfl⟩
  · exact ⟨_, fund_balance_mem drawn_received, nothing, .inr rfl⟩

/-- Every deal whose entry names a payment matches two documents. -/
theorem Deals.matches (sound : book.Sound policy) {step : Step} {deal : Deal}
    (dealt : Deals policy book step deal) (placed : book.Placed step)
    (paid : deal.entry.payment.isSome = true) :
    ∃ paid paying, Move.Matches ⟨book, deal⟩ paid paying := by
  cases dealt with
  | pair debt_eq source_eq debt_open source_open fits =>
      exact ⟨_, _, matches_pair sound placed debt_eq source_eq debt_open source_open fits⟩
  | leftover debt_eq debt_open moves => cases paid
  | reverse received_eq made_eq received_open made_open currency_eq =>
      exact ⟨_, _, matches_reverse sound placed received_eq made_eq received_open made_open⟩
  | remainder debt_eq carries => cases paid

end Book

namespace Move

variable {policy : LeftoverPolicy} {start : Book} {move : Move} {paid paying : Balance Int}

theorem Made.matches (made : move.Made policy start)
    (names_payment : move.deal.entry.payment.isSome = true) :
    ∃ paid paying, move.Matches paid paying := by
  obtain ⟨step, placed, dealt⟩ := made.step
  exact dealt.matches made.later.sound placed names_payment

/-- Both documents of a match are open before it. -/
theorem Matches.both_open (matched : move.Matches paid paying) :
    paid.reference ∈ move.before.openReferences ∧
      paying.reference ∈ move.before.openReferences := by
  have some_left : 0 < min paid.remaining.natAbs paying.remaining.natAbs :=
    matched.natAbs_eq ▸ Int.natAbs_pos.mpr matched.pay_ne
  obtain ⟨paid_left, paying_left⟩ := lt_min_iff.mp some_left
  exact ⟨Book.mem_openReferences.mpr ⟨paid, matched.paid_mem, Int.natAbs_pos.mp paid_left, rfl⟩,
    Book.mem_openReferences.mpr ⟨paying, matched.paying_mem, Int.natAbs_pos.mp paying_left, rfl⟩⟩

/-- One document of a match is not open after it. -/
theorem Matches.one_closed (matched : move.Matches paid paying)
    (distinct : move.deal.after.Distinct) :
    paid.reference ∉ move.deal.after.openReferences ∨
      paying.reference ∉ move.deal.after.openReferences := by
  obtain ⟨closed, closed_mem, nothing, which⟩ := matched.closes
  have gone := distinct.notMem_openReferences closed_mem nothing
  rcases which with paid_eq | paying_eq
  · exact .inl (paid_eq ▸ gone)
  · exact .inr (paying_eq ▸ gone)

/-- A match leaves fewer open documents than it finds. -/
theorem Matches.card_lt (matched : move.Matches paid paying)
    (later : Book.Later policy move.before move.deal.after)
    (distinct : move.deal.after.Distinct) :
    move.deal.after.openReferences.card < move.before.openReferences.card := by
  obtain ⟨paid_open, paying_open⟩ := matched.both_open
  refine Finset.card_lt_card (Finset.ssubset_iff_subset_ne.mpr
    ⟨later.openReferences_subset, fun same => ?_⟩)
  rcases matched.one_closed distinct with paid_closed | paying_closed
  · exact paid_closed (same ▸ paid_open)
  · exact paying_closed (same ▸ paying_open)

/-- An accepted match finds two open documents. -/
theorem Matches.one_lt_card (matched : move.Matches paid paying)
    (accepted : move.deal.entry.refusal? = none) : 1 < move.before.openReferences.card := by
  obtain ⟨paid_open, paying_open⟩ := matched.both_open
  refine Finset.one_lt_card.mpr ⟨_, paid_open, _, paying_open, fun same => ?_⟩
  rw [Entry.refusal?, if_pos] at accepted
  · cases accepted
  · rw [matched.payment_eq, matched.payable_eq, same]

end Move

/-! ## All matches of a trail -/

namespace History

/-- How many entries name a payment. -/
def matchCount (history : History) : Nat :=
  history.deals.countP fun deal => deal.entry.payment.isSome

theorem matchCount_record (history : History) (deal : Deal) :
    (history.record deal).matchCount =
      history.matchCount + if deal.entry.payment.isSome then 1 else 0 := by
  rw [matchCount, record, List.countP_append, List.countP_singleton, matchCount]

end History

namespace Trail

variable {policy : LeftoverPolicy} {start : Book} {history : History}

/-- Every match closes a document that has been open since the start, and the last one leaves two
fewer than it finds, so there is one match less than there are documents to close. -/
theorem matchCount_add_le (trail : Trail policy start history) (sound : start.Sound policy)
    (distinct : start.Distinct) :
    history.matchCount + history.book.openReferences.card ≤ start.openReferences.card ∧
      (history.matchCount = 0 ∨ history.matchCount + 1 ≤ start.openReferences.card) := by
  induction trail with
  | nil => exact ⟨(Nat.zero_add _).le, .inl rfl⟩
  | snoc trail placed dealt accepted ih =>
      rename_i history step deal
      obtain ⟨closed_so_far, bounded⟩ := ih
      have later := trail.later sound
      have next := dealt.later later.sound placed
      rw [History.matchCount_record]
      by_cases names_payment : deal.entry.payment.isSome = true
      · rw [if_pos names_payment]
        obtain ⟨paid, paying, matched⟩ := dealt.matches later.sound placed names_payment
        have two_open : 1 < history.book.openReferences.card := matched.one_lt_card accepted
        have fewer : (history.record deal).book.openReferences.card <
            history.book.openReferences.card :=
          matched.card_lt next (next.distinct (later.distinct distinct))
        exact ⟨by omega, .inr (by omega)⟩
      · rw [if_neg names_payment]
        have no_more : (history.record deal).book.openReferences.card ≤
            history.book.openReferences.card := Finset.card_le_card next.openReferences_subset
        exact ⟨by omega, bounded⟩

/-- There is one match less than there are documents. -/
theorem matchCount_le (trail : Trail policy start history) (sound : start.Sound policy)
    (distinct : start.Distinct) :
    history.matchCount ≤ start.debts.length + start.funds.length - 1 := by
  have documents := start.card_openReferences_le
  obtain ⟨-, nothing | bounded⟩ := trail.matchCount_add_le sound distinct
  · omega
  · omega

/-- No two documents are matched twice: one of them is closed for all moves after the first. -/
theorem matches_once (trail : Trail policy start history) (sound : start.Sound policy)
    (distinct : start.Distinct) :
    (history.moves start).Pairwise fun first second =>
      first.deal.entry.payment.isSome = true →
        (first.deal.entry.payable, first.deal.entry.payment) ≠
          (second.deal.entry.payable, second.deal.entry.payment) := by
  have made := trail.moves_made sound
  refine (trail.moves_later sound).imp_of_mem fun first_mem second_mem later => ?_
  rename_i first second
  rintro names_payment same
  obtain ⟨payable_eq, payment_eq⟩ := Prod.mk.inj same
  have first_made := made first first_mem
  obtain ⟨paid, paying, matched⟩ := first_made.matches names_payment
  obtain ⟨paid', paying', rematched⟩ :=
    (made second second_mem).matches (payment_eq ▸ names_payment)
  have paid_eq : paid'.reference = paid.reference := by
    rw [← rematched.payable_eq, ← payable_eq, matched.payable_eq]
  have paying_eq : paying'.reference = paying.reference := by
    have references := rematched.payment_eq
    rw [← payment_eq, matched.payment_eq] at references
    exact (Option.some.inj references).symm
  obtain ⟨paid_open, paying_open⟩ := rematched.both_open
  rw [paid_eq] at paid_open
  rw [paying_eq] at paying_open
  rcases matched.one_closed ((first_made.later.trans first_made.leaves).distinct distinct)
    with closed | closed
  · exact closed (later.openReferences_subset paid_open)
  · exact closed (later.openReferences_subset paying_open)

end Trail
end Settlement
