import Settlement.Proofs.Exact.Contributions
import Settlement.Proofs.Exact.Documents

/-!
# Accounts

Debts and funds looked at alike: an account has an open amount, and what has been allocated to it
is one number.  An entry posts its total to the account that it settles, and its pay amount to the
account that it is paid with.  The over- and underpayments that it announces are what stays open on
these two accounts once it is posted, so along a trail they follow from the entries so far.
-/

namespace Settlement

/-! ## Accounts -/

/-- A document of a book with what has been allocated to it in all. -/
structure Account where
  reference : Reference
  currency : Currency
  /-- The open amount in ticks. -/
  openAmount : Int
  /-- What has been allocated, all parts together. -/
  allocated : Int
  deriving DecidableEq, Repr

/-- The debt as an account. -/
def Debt.account (debt : Debt) : Account :=
  ⟨debt.reference, debt.currency, debt.openAmount, debt.allocated.total⟩

/-- The fund as an account. -/
def Fund.account (fund : Fund) : Account :=
  ⟨fund.reference, fund.currency, fund.openAmount, fund.allocated⟩

/-- The documents of a book as accounts. -/
def Book.accounts (book : Book) : List Account :=
  book.debts.map Debt.account ++ book.funds.map Fund.account

namespace Entry

/-- What an entry counts for the account that it is paid with. -/
def drawn (entry : Entry) : Int :=
  if entry.kind = .invoiceToPayment then entry.parts.pay else -entry.parts.pay

/-- What an entry adds to what has been allocated to the account with a reference. -/
def toAccount (reference : Reference) (entry : Entry) : Int :=
  (if entry.payable = reference then entry.parts.total else 0) +
    (if entry.payment = some reference then entry.drawn else 0)

/-- What stays open of the payment as the account counts it: setting a payment received against a
payment made turns the sign. -/
def paymentStays (entry : Entry) : Int :=
  if entry.kind = .inboundPaymentToOutboundPayment then -entry.paymentOverUnder
  else entry.paymentOverUnder

theorem payment_ne (entry : Entry) (accepted : entry.refusal? = none) :
    entry.payment ≠ some entry.payable := by
  intro same
  rw [refusal?, if_pos same] at accepted
  cases accepted

theorem toAccount_payable (entry : Entry) (accepted : entry.refusal? = none) :
    entry.toAccount entry.payable = entry.parts.total := by
  rw [toAccount, if_pos rfl, if_neg (entry.payment_ne accepted), Int.add_zero]

theorem toAccount_payment (entry : Entry) (accepted : entry.refusal? = none)
    {reference : Reference} (paid : entry.payment = some reference) :
    entry.toAccount reference = entry.drawn := by
  have different : entry.payable ≠ reference := by
    rintro rfl
    exact entry.payment_ne accepted paid
  rw [toAccount, if_neg different, if_pos paid, Int.zero_add]

end Entry

namespace Account

/-- The account once some more is allocated to it. -/
def post (amount : Int) (account : Account) : Account :=
  { account with allocated := account.allocated + amount }

@[simp]
theorem reference_post (amount : Int) (account : Account) :
    (account.post amount).reference = account.reference := rfl

@[simp]
theorem openAmount_post (amount : Int) (account : Account) :
    (account.post amount).openAmount = account.openAmount := rfl

@[simp]
theorem allocated_post (amount : Int) (account : Account) :
    (account.post amount).allocated = account.allocated + amount := rfl

theorem post_zero (account : Account) : account.post 0 = account := by
  simp [post]

theorem post_post (first second : Int) (account : Account) :
    (account.post first).post second = account.post (first + second) := by
  simp [post, Int.add_assoc]

end Account

/-! ## One deal -/

namespace Book

variable {policy : LeftoverPolicy} {book : Book} {step : Step} {deal : Deal}

theorem debt_account_mem {index : Nat} {debt : Debt} (debt_eq : book.debts[index]? = some debt) :
    debt.account ∈ book.accounts :=
  List.mem_append_left _ (List.mem_map_of_mem (List.mem_of_getElem? debt_eq))

theorem fund_account_mem {index : Nat} {fund : Fund} (fund_eq : book.funds[index]? = some fund) :
    fund.account ∈ book.accounts :=
  List.mem_append_right _ (List.mem_map_of_mem (List.mem_of_getElem? fund_eq))

/-- Every document that acts as a payment is an account.  A debt counts what is paid with it with
the other sign. -/
theorem source_account {means : Means} {source : Source} 
    (source_eq : book.source? means = some source) (amount : Int) :
    ∃ account ∈ book.accounts, account.reference = source.reference ∧
      account.currency = source.currency ∧
      source.projected amount = account.openAmount - account.allocated -
        (if means.pairingKind = .invoiceToPayment then amount else -amount) := by
  cases means with
  | payment index =>
      obtain ⟨fund, fund_eq, rfl⟩ := Option.map_eq_some_iff.mp source_eq
      exact ⟨fund.account, fund_account_mem fund_eq, rfl, rfl, rfl⟩
  | creditMemo index =>
      obtain ⟨debt, debt_eq, rfl⟩ := Option.map_eq_some_iff.mp source_eq
      refine ⟨debt.account, debt_account_mem debt_eq, rfl, rfl, ?_⟩
      simp [Source.projected, Debt.projected, Debt.account, Parts.total, Means.pairingKind]
  | purchaseInvoice index =>
      obtain ⟨debt, debt_eq, rfl⟩ := Option.map_eq_some_iff.mp source_eq
      refine ⟨debt.account, debt_account_mem debt_eq, rfl, rfl, ?_⟩
      simp [Source.projected, Debt.projected, Debt.account, Parts.total, Means.pairingKind]

/-- What an entry says to stay open of its payable is what stays once its total is posted. -/
theorem Deals.payable_account (dealt : Deals policy book step deal) :
    ∃ account ∈ book.accounts, account.reference = deal.entry.payable ∧
      account.currency = deal.entry.currency ∧
      deal.entry.payableOverUnder =
        account.openAmount - account.allocated - deal.entry.parts.total := by
  cases dealt with
  | pair debt_eq source_eq debt_open source_open fits =>
      exact ⟨_, debt_account_mem debt_eq, rfl, rfl, rfl⟩
  | leftover debt_eq debt_open moves =>
      refine ⟨_, debt_account_mem debt_eq, ?_⟩
      simp [Debt.account, concessionEntry, Debt.projected]
  | reverse received_eq made_eq received_open made_open currency_eq =>
      refine ⟨_, fund_account_mem made_eq, rfl, rfl, ?_⟩
      simp [Fund.account, reversalEntry, Fund.projected, Parts.total]
  | remainder debt_eq carries => exact ⟨_, debt_account_mem debt_eq, rfl, rfl, rfl⟩

/-- What an entry says to stay open of its payment is what stays once the payment is drawn. -/
theorem Deals.payment_account (dealt : Deals policy book step deal) (placed : book.Placed step)
    {reference : Reference} (paid : deal.entry.payment = some reference) :
    ∃ account ∈ book.accounts, account.reference = reference ∧
      account.currency = deal.entry.currency ∧
      deal.entry.paymentStays = account.openAmount - account.allocated - deal.entry.drawn := by
  cases dealt with
  | pair debt_eq source_eq debt_open source_open fits =>
      rename_i kind index means debt source
      obtain rfl := Option.some.inj paid
      obtain rfl := Serves.kind_eq placed
      obtain ⟨account, mem, reference_eq, currency_eq, projected_eq⟩ :=
        source_account source_eq (source.share debt)
      have unturned : means.pairingKind ≠ .inboundPaymentToOutboundPayment := by
        cases means <;> simp [Means.pairingKind]
      exact ⟨account, mem, reference_eq, currency_eq.trans (Source.currency_of_fits fits),
        (if_neg unturned).trans projected_eq⟩
  | leftover debt_eq debt_open moves => cases paid
  | reverse received_eq made_eq received_open made_open currency_eq =>
      obtain rfl := Option.some.inj paid
      refine ⟨_, fund_account_mem received_eq, rfl, currency_eq.symm, ?_⟩
      simp [Fund.account, Entry.paymentStays, Entry.drawn, reversalEntry, Fund.projected]
  | remainder debt_eq carries => cases paid

/-- An entry without a payment leaves nothing open of one. -/
theorem Deals.unpaid (dealt : Deals policy book step deal) (unpaid : deal.entry.payment = none) :
    deal.entry.paymentOverUnder = 0 := by
  cases dealt with
  | pair debt_eq source_eq debt_open source_open fits => cases unpaid
  | leftover debt_eq debt_open moves => rfl
  | reverse received_eq made_eq received_open made_open currency_eq => cases unpaid
  | remainder debt_eq carries => rfl

/-- The parts of an entry are small together. -/
theorem Deals.parts_small (dealt : Deals policy book step deal) (sound : book.Sound policy)
    (placed : book.Placed step) : deal.entry.parts.magnitude < coefficientLimit := by
  cases dealt with
  | pair debt_eq source_eq debt_open source_open fits =>
      exact offer_small _ (sound.debt debt_eq).balances_small
  | leftover debt_eq debt_open moves =>
      have small := ((sound.debt debt_eq).balances_small.move policy).remaining
      simp only [concessionEntry]
      omega
  | reverse received_eq made_eq received_open made_open currency_eq =>
      rename_i inbound outbound received made
      obtain ⟨received_pos, made_neg⟩ :=
        placed.reverse_signs sound received_eq made_eq received_open made_open
      have offset_le := (offset_within received_pos made_neg).1.natAbs_le
      have small := (sound.fund made_eq).balances_small.remaining
      simp only [reversalEntry, Parts.magnitude_ofPay]
      omega
  | remainder debt_eq carries =>
      have small := (sound.debt debt_eq).balances_small.remaining
      simp only [concessionEntry, Parts.magnitude, Int.natAbs_zero] at small ⊢
      omega

/-- The documents of a book that the two sides of an entry name, by its kind. -/
inductive Sides (book : Book) (entry : Entry) : Prop
  /-- A fund pays a debt. -/
  | paid {debt : Debt} {fund : Fund} (debt_mem : debt ∈ book.debts) (fund_mem : fund ∈ book.funds)
      (kind_eq : entry.kind = .invoiceToPayment) (payable_eq : entry.payable = debt.reference)
      (payment_eq : entry.payment = some fund.reference)
  /-- Another debt pays a debt. -/
  | netted {debt other : Debt} (debt_mem : debt ∈ book.debts) (other_mem : other ∈ book.debts)
      (kind_eq : entry.kind = .invoiceToCreditMemo ∨
        entry.kind = .salesInvoiceToPurchaseInvoice)
      (payable_eq : entry.payable = debt.reference)
      (payment_eq : entry.payment = some other.reference)
  /-- Nothing pays what is conceded of a debt. -/
  | conceded {debt : Debt} (debt_mem : debt ∈ book.debts)
      (kind_eq : entry.kind = .invoiceDiscountOrWriteOff)
      (payable_eq : entry.payable = debt.reference) (payment_eq : entry.payment = none)
  /-- A fund stands against another fund. -/
  | reversed {made received : Fund} (made_mem : made ∈ book.funds)
      (received_mem : received ∈ book.funds)
      (kind_eq : entry.kind = .inboundPaymentToOutboundPayment)
      (payable_eq : entry.payable = made.reference)
      (payment_eq : entry.payment = some received.reference)
      (total_eq : entry.parts.total = entry.parts.pay)

theorem Deals.sides (dealt : Deals policy book step deal) (placed : book.Placed step) :
    Sides book deal.entry := by
  cases dealt with
  | pair debt_eq source_eq debt_open source_open fits =>
      rename_i kind index means debt source
      have debt_mem := List.mem_of_getElem? debt_eq
      obtain rfl := Serves.kind_eq placed
      cases means with
      | payment other =>
          obtain ⟨fund, fund_eq, rfl⟩ := Option.map_eq_some_iff.mp source_eq
          exact .paid debt_mem (List.mem_of_getElem? fund_eq) rfl rfl rfl
      | creditMemo other =>
          obtain ⟨memo, memo_eq, rfl⟩ := Option.map_eq_some_iff.mp source_eq
          exact .netted debt_mem (List.mem_of_getElem? memo_eq) (.inl rfl) rfl rfl
      | purchaseInvoice other =>
          obtain ⟨bill, bill_eq, rfl⟩ := Option.map_eq_some_iff.mp source_eq
          exact .netted debt_mem (List.mem_of_getElem? bill_eq) (.inr rfl) rfl rfl
  | leftover debt_eq debt_open moves =>
      exact .conceded (List.mem_of_getElem? debt_eq) rfl
        (congrArg Debt.Terms.reference (Debt.terms_move _ _)) rfl
  | reverse received_eq made_eq received_open made_open currency_eq =>
      exact .reversed (List.mem_of_getElem? made_eq) (List.mem_of_getElem? received_eq) rfl rfl rfl
        (by simp [reversalEntry, Parts.total])
  | remainder debt_eq carries =>
      exact .conceded (List.mem_of_getElem? debt_eq) rfl rfl rfl

/-- What an entry contributes to a debt is what it adds to the account. -/
theorem Sides.toDebt_total (distinct : book.Distinct) {entry : Entry} (sides : Sides book entry)
    {debt : Debt} (mem : debt ∈ book.debts) :
    (entry.toDebt debt.reference).total = entry.toAccount debt.reference := by
  cases sides with
  | paid payable_mem fund_mem kind_eq payable_eq payment_eq =>
      have apart := (distinct.ne_of_mem mem fund_mem).symm
      simp only [Entry.toDebt, Entry.toAccount, payment_eq, Option.some.injEq, apart, if_false,
        sub_zero, add_zero]
      split_ifs <;> rfl
  | netted payable_mem other_mem kind_eq payable_eq payment_eq =>
      have drawn_eq : entry.drawn = -entry.parts.pay := by
        rcases kind_eq with kind_eq | kind_eq <;> simp [Entry.drawn, kind_eq]
      simp only [Entry.toDebt, Entry.toAccount, drawn_eq]
      split_ifs <;> simp [Parts.total]
      omega
  | conceded payable_mem kind_eq payable_eq payment_eq =>
      simp only [Entry.toDebt, Entry.toAccount, payment_eq, reduceCtorEq, if_false, sub_zero,
        add_zero]
      split_ifs <;> rfl
  | reversed made_mem received_mem kind_eq payable_eq payment_eq total_eq =>
      have made_apart := (distinct.ne_of_mem mem made_mem).symm
      have received_apart := (distinct.ne_of_mem mem received_mem).symm
      simp only [Entry.toDebt, Entry.toAccount, payable_eq, payment_eq, Option.some.injEq,
        made_apart, received_apart, if_false]
      rfl

/-- What an entry contributes to a fund is what it adds to the account. -/
theorem Sides.toFund_eq (distinct : book.Distinct) {entry : Entry} (sides : Sides book entry)
    {fund : Fund} (mem : fund ∈ book.funds) :
    entry.toFund fund.reference = entry.toAccount fund.reference := by
  cases sides with
  | paid debt_mem fund_mem kind_eq payable_eq payment_eq =>
      have apart := distinct.ne_of_mem debt_mem mem
      simp [Entry.toFund, Entry.toAccount, Entry.drawn, kind_eq, payable_eq, apart]
  | netted debt_mem other_mem kind_eq payable_eq payment_eq =>
      have debt_apart := distinct.ne_of_mem debt_mem mem
      have other_apart := distinct.ne_of_mem other_mem mem
      rcases kind_eq with kind_eq | kind_eq <;>
        simp [Entry.toFund, Entry.toAccount, kind_eq, payable_eq, payment_eq, debt_apart,
          other_apart]
  | conceded debt_mem kind_eq payable_eq payment_eq =>
      have apart := distinct.ne_of_mem debt_mem mem
      simp [Entry.toFund, Entry.toAccount, kind_eq, payable_eq, payment_eq, apart]
  | reversed made_mem received_mem kind_eq payable_eq payment_eq total_eq =>
      simp only [Entry.toFund, Entry.toAccount, Entry.drawn, kind_eq, total_eq, reduceCtorEq,
        if_false]
      split_ifs <;> omega

/-- A deal posts its entry to the accounts, and changes nothing else of them. -/
theorem Deals.accounts_eq (dealt : Deals policy book step deal) (placed : book.Placed step)
    (sound : book.Sound policy) (distinct : book.Distinct) :
    deal.after.accounts =
      book.accounts.map fun account =>
        account.post (deal.entry.toAccount account.reference) := by
  have later := dealt.later sound placed
  have sides := dealt.sides placed
  have debts : deal.after.debts.map Debt.account = book.debts.map fun debt =>
      debt.account.post (deal.entry.toAccount debt.reference) := by
    apply map_eq_map later.debts.length_eq
    intro place found found_eq
    obtain ⟨changed, changed_eq, gained⟩ := dealt.toDebt distinct found_eq
    obtain ⟨changed', changed_eq', terms_eq⟩ := later.debt_terms found_eq
    obtain rfl := Option.some.inj (changed_eq.symm.trans changed_eq')
    refine ⟨changed, changed_eq, ?_⟩
    rw [Debt.account, gained, terms_eq, Parts.total_add,
      sides.toDebt_total distinct (List.mem_of_getElem? found_eq)]
    rfl
  have funds : deal.after.funds.map Fund.account = book.funds.map fun fund =>
      fund.account.post (deal.entry.toAccount fund.reference) := by
    apply map_eq_map later.funds.length_eq
    intro place found found_eq
    obtain ⟨changed, changed_eq, gained⟩ := dealt.toFund distinct placed found_eq
    obtain ⟨changed', changed_eq', terms_eq⟩ := later.fund_terms found_eq
    obtain rfl := Option.some.inj (changed_eq.symm.trans changed_eq')
    refine ⟨changed, changed_eq, ?_⟩
    rw [Fund.account, gained, terms_eq,
      sides.toFund_eq distinct (List.mem_of_getElem? found_eq)]
    rfl
  rw [accounts, accounts, List.map_append, List.map_map, List.map_map, debts, funds]
  rfl

end Book

/-! ## Whole trails -/

/-- An entry, the last of some entries, says what the accounts of its two sides come to: what they
opened with, less what the entries have posted to them. -/
structure Entry.Telescopes (start : Book) (entries : List Entry) (entry : Entry) : Prop where
  payable : ∃ account ∈ start.accounts, account.reference = entry.payable ∧
    account.currency = entry.currency ∧
    entry.payableOverUnder = account.openAmount - account.allocated -
      (entries.map (Entry.toAccount entry.payable)).sum
  payment : ∀ reference, entry.payment = some reference →
    ∃ account ∈ start.accounts, account.reference = reference ∧
      account.currency = entry.currency ∧
      entry.paymentStays = account.openAmount - account.allocated -
        (entries.map (Entry.toAccount reference)).sum
  unpaid : entry.payment = none → entry.paymentOverUnder = 0
  small : entry.parts.magnitude < coefficientLimit

namespace Trail

variable {policy : LeftoverPolicy} {start : Book} {history : History}

/-- Along a trail all entries are posted to the accounts. -/
theorem accounts_eq (trail : Trail policy start history) (sound : start.Sound policy)
    (distinct : start.Distinct) :
    history.book.accounts =
      start.accounts.map fun account =>
        account.post
          ((history.deals.map Deal.entry).map (Entry.toAccount account.reference)).sum := by
  induction trail with
  | nil => simp [Account.post_zero]
  | snoc trail placed dealt accepted ih =>
      have later := trail.later sound
      rw [History.record, dealt.accounts_eq placed later.sound (later.distinct distinct), ih,
        List.map_map]
      refine List.map_congr_left fun account _ => ?_
      simp only [Function.comp_apply, Account.post_post, List.map_append, List.sum_append,
        List.map_singleton, List.sum_singleton]
      rfl

/-- Every entry of a trail, with those before it, says what the accounts of its sides come to. -/
theorem telescopes (trail : Trail policy start history) (sound : start.Sound policy)
    (distinct : start.Distinct) {earlier : List Deal} {deal : Deal}
    (begins : earlier ++ [deal] <+: history.deals) :
    deal.entry.Telescopes start ((earlier ++ [deal]).map Deal.entry) := by
  induction trail with
  | nil => simp at begins
  | snoc trail placed dealt accepted ih =>
      rename_i history step last
      rcases List.prefix_concat_iff.mp begins with whole | shorter
      · obtain ⟨rfl, rfl⟩ : earlier = history.deals ∧ deal = last := by
          simpa using List.append_inj' whole rfl
        have later := trail.later sound
        have accounts := trail.accounts_eq sound distinct
        have posted : ∀ reference,
            (((history.deals ++ [deal]).map Deal.entry).map (Entry.toAccount reference)).sum =
              ((history.deals.map Deal.entry).map (Entry.toAccount reference)).sum +
                deal.entry.toAccount reference := by
          simp
        constructor
        · obtain ⟨account, mem, reference_eq, currency_eq, stays⟩ := dealt.payable_account
          obtain ⟨given, given_mem, rfl⟩ := List.mem_map.mp (accounts ▸ mem)
          refine ⟨given, given_mem, reference_eq, currency_eq, ?_⟩
          rw [stays, posted, deal.entry.toAccount_payable accepted, ← reference_eq]
          simp only [Account.reference_post, Account.openAmount_post, Account.allocated_post]
          omega
        · intro reference paid
          obtain ⟨account, mem, reference_eq, currency_eq, stays⟩ :=
            dealt.payment_account placed paid
          obtain ⟨given, given_mem, rfl⟩ := List.mem_map.mp (accounts ▸ mem)
          refine ⟨given, given_mem, reference_eq, currency_eq, ?_⟩
          rw [stays, posted, deal.entry.toAccount_payment accepted paid, ← reference_eq]
          simp only [Account.reference_post, Account.openAmount_post, Account.allocated_post]
          omega
        · exact dealt.unpaid
        · exact dealt.parts_small later.sound placed
      · exact ih shorter

end Trail

/-! ## The documents that entries name -/

theorem Book.references_accounts (book : Book) :
    book.accounts.map Account.reference = book.references := by
  rw [accounts, references, List.map_append, List.map_map, List.map_map]
  rfl

/-- Entries name no other documents than those that the trail starts from. -/
theorem Trail.named {policy : LeftoverPolicy} {start : Book} {history : History}
    (trail : Trail policy start history) (sound : start.Sound policy) :
    ∀ deal ∈ history.deals, deal.entry.payable ∈ start.references ∧
      ∀ reference, deal.entry.payment = some reference → reference ∈ start.references := by
  induction trail with
  | nil => simp
  | snoc trail placed dealt accepted ih =>
      have references_eq := (trail.later sound).references_eq
      intro other mem
      rcases List.mem_append.mp mem with earlier | last
      · exact ih other earlier
      · obtain rfl := List.mem_singleton.mp last
        rw [← references_eq, ← Book.references_accounts]
        constructor
        · obtain ⟨account, account_mem, reference_eq, -⟩ := dealt.payable_account
          exact reference_eq ▸ List.mem_map_of_mem account_mem
        · intro reference paid
          obtain ⟨account, account_mem, reference_eq, -⟩ := dealt.payment_account placed paid
          exact reference_eq ▸ List.mem_map_of_mem account_mem

end Settlement
