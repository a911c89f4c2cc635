import Settlement.Proofs.Currencies.Positions
import Settlement.Proofs.Exact.Acceptance

/-!
# Credit memos restated as payments

A book of invoices and credit memos is restated as one in which a fund stands for every credit
memo, with the opposite of its amounts: of the initial and the remaining pay amount, of the open
amount, and of all that has been allocated.  Matching an invoice with a credit memo in the first
book is then matching it with the fund in the second one.
-/

namespace Settlement

/-- A fund stands for a credit memo: their amounts are opposite, and their references linked. -/
structure Fund.Opposes (links : List (Reference × Reference)) (memo : Debt) (fund : Fund) :
    Prop where
  linked : (memo.reference, fund.reference) ∈ links
  currency_eq : fund.currency = memo.currency
  openAmount_eq : fund.openAmount = -memo.openAmount
  initial_eq : fund.initial = -memo.initial.pay
  remaining_eq : fund.remaining = -memo.remaining.pay
  /-- A credit memo counts all parts of what has been allocated to it. -/
  allocated_eq : fund.allocated = -memo.allocated.total

/-- An entry that pays with a fund restates one that pays with a credit memo: only the payment
differs, and what stays open of it has the opposite sign. -/
structure Entry.Restates (links : List (Reference × Reference)) (credited paid : Entry) :
    Prop where
  credited_kind : credited.kind = .invoiceToCreditMemo
  paid_kind : paid.kind = .invoiceToPayment
  organization_eq : paid.organization = credited.organization
  partner_eq : paid.partner = credited.partner
  payable_eq : paid.payable = credited.payable
  linked : ∃ link ∈ links, credited.payment = some link.1 ∧ paid.payment = some link.2
  currency_eq : paid.currency = credited.currency
  parts_eq : paid.parts = credited.parts
  payableOverUnder_eq : paid.payableOverUnder = credited.payableOverUnder
  paymentOverUnder_eq : paid.paymentOverUnder = -credited.paymentOverUnder

namespace Fund.Opposes

variable {links : List (Reference × Reference)} {memo debt : Debt} {fund : Fund}

/-- As payments, the two have the same left. -/
theorem remaining_source (opposes : fund.Opposes links memo) :
    (Source.fund fund).remaining = (Source.creditMemo memo).remaining := opposes.remaining_eq

theorem share_eq (opposes : fund.Opposes links memo) (debt : Debt) :
    (Source.fund fund).share debt = (Source.creditMemo memo).share debt := by
  rw [Source.share, Source.share, opposes.remaining_source]

theorem offer_eq (opposes : fund.Opposes links memo) (debt : Debt) :
    Book.offer debt (.fund fund) = Book.offer debt (.creditMemo memo) := by
  rw [Book.offer, Book.offer, opposes.share_eq]

/-- What would stay open of the fund is what would stay open of the credit memo, with the other
sign. -/
theorem projected_eq (opposes : fund.Opposes links memo) (amount : Int) :
    (Source.fund fund).projected amount = -(Source.creditMemo memo).projected amount := by
  simp only [Source.projected, Fund.projected, Debt.projected, opposes.openAmount_eq,
    opposes.allocated_eq, Parts.total, Parts.pay_ofPay, Parts.discount_ofPay,
    Parts.writeOff_ofPay]
  omega

/-- The fund fits an invoice where the credit memo does. -/
theorem fits_iff (opposes : fund.Opposes links memo) (invoice : debt.kind = .invoice)
    (side_eq : debt.side = memo.side) (currency_eq : debt.currency = memo.currency) :
    (Source.fund fund).Fits debt ↔ (Source.creditMemo memo).Fits debt := by
  have can : (Source.fund fund).CanPay debt ↔ (Source.creditMemo memo).CanPay debt := by
    simp only [Source.CanPay, opposes.currency_eq, invoice, side_eq, currency_eq, true_and]
  have initial : (Source.fund fund).initial = (Source.creditMemo memo).initial :=
    opposes.initial_eq
  rw [Source.Fits, Source.Fits, can, initial]

/-- What is paid with the credit memo is paid with the fund. -/
theorem draw (opposes : fund.Opposes links memo) (amount : Int) :
    (fund.draw amount).Opposes links (memo.charge (Parts.ofPay (-amount))) where
  linked := opposes.linked
  currency_eq := opposes.currency_eq
  openAmount_eq := opposes.openAmount_eq
  initial_eq := opposes.initial_eq
  remaining_eq := by simp [opposes.remaining_eq]; omega
  allocated_eq := by simp [opposes.allocated_eq, Parts.total]; omega

end Fund.Opposes

/-! ## Books -/

/-- The step that pays with the fund in place of the credit memo, at the positions that an invoice
and a credit memo of a book have among their kind. -/
inductive Step.Restates (book : Book) : Step → Step → Prop where
  | pair {index other position place : Nat}
      (index_eq : position? (!·.creditMemo) book.debts index = some position)
      (other_eq : position? (·.creditMemo) book.debts other = some place) :
      Restates book (.pair .invoiceToCreditMemo index (.creditMemo other))
        (.pair .invoiceToPayment position (.payment place))
  | leftover {index position : Nat}
      (index_eq : position? (!·.creditMemo) book.debts index = some position) :
      Restates book (.leftover index) (.leftover position)

namespace Book

/-- All debts are invoices or credit memos of one side in one currency. -/
def Uniform (side : TradeSide) (currency : Currency) (book : Book) : Prop :=
  ∀ debt ∈ book.debts, debt.kind = .invoice ∧ debt.side = side ∧ debt.currency = currency

/-- A book with a fund for every credit memo of another, and the same invoices. -/
structure Restates (links : List (Reference × Reference)) (credit cash : Book) : Prop where
  invoices : cash.debts = credit.debts.filter (!·.creditMemo)
  memos : List.Forall₂ (Fund.Opposes links) (credit.debts.filter (·.creditMemo)) cash.funds

variable {links : List (Reference × Reference)} {credit cash book : Book} {policy : LeftoverPolicy}
  {side : TradeSide} {currency : Currency} {index other position place : Nat}

theorem Later.uniform {before after : Book} (later : Later policy before after)
    (uniform : before.Uniform side currency) : after.Uniform side currency := by
  intro debt mem
  obtain ⟨given, given_mem, step⟩ := forall₂_mem_right later.debts mem
  rw [step.terms_eq]
  exact uniform given given_mem

/-- Positions stay while the book becomes later. -/
theorem Later.step_restates {before after : Book} (later : Later policy before after)
    {step step' : Step} (restates : step.Restates before step') : step.Restates after step' := by
  have memo_eq : ∀ debt found, Debt.Later policy debt found → debt.creditMemo = found.creditMemo :=
    fun _ _ grown => (congrArg Debt.Terms.creditMemo grown.terms_eq).symm
  have invoice_eq : ∀ debt found, Debt.Later policy debt found →
      (!debt.creditMemo) = !found.creditMemo :=
    fun debt found grown => congrArg (!·) (memo_eq debt found grown)
  cases restates with
  | pair index_eq other_eq =>
      rw [position?_congr later.debts invoice_eq] at index_eq
      rw [position?_congr later.debts memo_eq] at other_eq
      exact .pair index_eq other_eq
  | leftover index_eq =>
      rw [position?_congr later.debts invoice_eq] at index_eq
      exact .leftover index_eq

/-- An invoice stands at its position. -/
theorem Restates.debt (restates : credit.Restates links cash)
    (index_eq : position? (!·.creditMemo) credit.debts index = some position) :
    ∃ debt, credit.debts[index]? = some debt ∧ debt.creditMemo = false ∧
      cash.debts[position]? = some debt := by
  obtain ⟨debt, debt_eq, kept, found⟩ := getElem?_of_position index_eq
  exact ⟨debt, debt_eq, by simpa using kept, restates.invoices ▸ found⟩

/-- The fund that stands for a credit memo stands at its position. -/
theorem Restates.memo (restates : credit.Restates links cash)
    (other_eq : position? (·.creditMemo) credit.debts other = some place) :
    ∃ memo fund, credit.debts[other]? = some memo ∧ memo.creditMemo = true ∧
      cash.funds[place]? = some fund ∧ fund.Opposes links memo := by
  obtain ⟨memo, memo_eq, credited, found⟩ := getElem?_of_position other_eq
  obtain ⟨fund, fund_eq, opposes⟩ := forall₂_getElem? restates.memos found
  exact ⟨memo, fund, memo_eq, credited, fund_eq, opposes⟩

/-- An invoice is changed in both books alike. -/
theorem Restates.changeDebt (restates : credit.Restates links cash)
    (index_eq : position? (!·.creditMemo) credit.debts index = some position)
    (change : Debt → Debt) (keeps : ∀ debt, (change debt).creditMemo = debt.creditMemo) :
    (credit.changeDebt index change).Restates links (cash.changeDebt position change) where
  invoices := by
    rw [Book.changeDebt, Book.changeDebt, restates.invoices]
    exact (filter_modify_of_position index_eq fun debt => congrArg (!·) (keeps debt)).symm
  memos := by
    obtain ⟨debt, debt_eq, invoice, -⟩ := restates.debt index_eq
    rw [Book.changeDebt, filter_modify_of_dropped (position?_eq_none debt_eq invoice) keeps]
    exact restates.memos

/-- What is paid with a credit memo in the one book is paid with its fund in the other. -/
theorem Restates.draw (restates : credit.Restates links cash)
    (other_eq : position? (·.creditMemo) credit.debts other = some place) (amount : Int) :
    (credit.draw (.creditMemo other) amount).Restates links
      (cash.draw (.payment place) amount) where
  invoices := by
    obtain ⟨memo, -, memo_eq, credited, -⟩ := restates.memo other_eq
    have dropped : position? (!·.creditMemo) credit.debts other = none :=
      position?_eq_none memo_eq (by simp [credited])
    rw [Book.draw, Book.draw, charge, Book.changeDebt, filter_modify_of_dropped dropped]
    · exact restates.invoices
    · exact fun _ => rfl
  memos := by
    obtain ⟨memo, -, -, memo_at⟩ := getElem?_of_position other_eq
    obtain ⟨fund, fund_at, opposes⟩ := forall₂_getElem? restates.memos memo_at
    have memos_eq : (credit.debts.modify other (·.charge (Parts.ofPay (-amount)))).filter
        (·.creditMemo) = _ := filter_modify_of_position other_eq fun _ => rfl
    rw [Book.draw, Book.draw, charge, Book.changeDebt, changeFund, memos_eq,
      List.modify_eq_set_getElem?, List.modify_eq_set_getElem?, memo_at, fund_at]
    exact forall₂_set restates.memos place (opposes.draw amount)

/-- Positions stay when a debt is changed and stays what it is. -/
theorem position?_changeDebt {keep : Debt → Bool} {change : Debt → Debt}
    (keeps : ∀ debt, keep (change debt) = keep debt) (index other : Nat) :
    position? keep (book.changeDebt index change).debts other =
      position? keep book.debts other := by
  have same : List.Forall₂ (fun before after => keep before = keep after) book.debts
      (book.changeDebt index change).debts :=
    forall₂_modify (fun _ _ => rfl) fun debt _ => (keeps debt).symm
  exact (position?_congr same (fun _ _ agree => agree) other).symm

end Book
end Settlement
