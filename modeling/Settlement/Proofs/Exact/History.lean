import Settlement.Matching.Pass
import Settlement.Proofs.Exact.Book

/-!
# Histories of a book

A settlement in ticks runs through the same steps and passes as one over documents.  It leaves
the deals that were made, in order.  Every such history is a trail: one deal after the other, each
made by a step that is well placed in the book it starts from.
-/

namespace Settlement

namespace Book

/-! ## What a step deals -/

/-- The deal that a step makes, if any. -/
def deal? (policy : LeftoverPolicy) (book : Book) : Step → Option Deal
  | .pair kind payable means => book.pairing? kind payable means
  | .leftover payable => book.leftover? policy payable
  | .reverse inbound outbound => book.reversal? inbound outbound
  | .remainder payable => book.remainder? payable

/-- Everything that a step can deal, with what it takes for granted. -/
inductive Deals (policy : LeftoverPolicy) (book : Book) : Step → Deal → Prop where
  /-- A debt and a document that fits it are both open. -/
  | pair {kind : CandidateKind} {index : Nat} {means : Means} {debt : Debt} {source : Source}
      (debt_eq : book.debts[index]? = some debt) (source_eq : book.source? means = some source)
      (debt_open : debt.IsOpen) (source_open : source.IsOpen) (fits : source.Fits debt) :
      Deals policy book (.pair kind index means)
        { entry := pairEntry kind debt source (offer debt source)
          after := (book.charge index (offer debt source)).draw means (source.share debt) }
  /-- What is left of an open debt is moved and settled. -/
  | leftover {index : Nat} {debt : Debt} (debt_eq : book.debts[index]? = some debt)
      (debt_open : debt.IsOpen) (moves : policy ≠ .leaveOpen) :
      Deals policy book (.leftover index)
        { entry := concessionEntry (debt.move policy) (debt.move policy).remaining
          after :=
            (book.changeDebt index (·.move policy)).charge index (debt.move policy).remaining }
  /-- A payment received and a payment made in one currency are both open. -/
  | reverse {inbound outbound : Nat} {received made : Fund}
      (received_eq : book.funds[inbound]? = some received)
      (made_eq : book.funds[outbound]? = some made) (received_open : received.IsOpen)
      (made_open : made.IsOpen) (currency_eq : made.currency = received.currency) :
      Deals policy book (.reverse inbound outbound)
        { entry := reversalEntry received made (offset received made)
          after :=
            (book.changeFund outbound (·.draw (offset received made))).changeFund inbound
              (·.draw (-offset received made)) }
  /-- A debt still carries a discount or a write-off. -/
  | remainder {index : Nat} {debt : Debt} (debt_eq : book.debts[index]? = some debt)
      (carries : { debt.remaining with pay := 0 } ≠ (0 : Parts)) :
      Deals policy book (.remainder index)
        { entry := concessionEntry debt { debt.remaining with pay := 0 }
          after := book.charge index { debt.remaining with pay := 0 } }

theorem concession?_eq {book : Book} {index : Nat} {debt : Debt} (parts : Parts)
    (debt_eq : book.debts[index]? = some debt) :
    book.concession? index parts =
      some { entry := concessionEntry debt parts, after := book.charge index parts } := by
  rw [concession?, debt_eq]
  rfl

theorem getElem?_changeDebt_self {book : Book} {index : Nat} {debt : Debt}
    (change : Debt → Debt) (debt_eq : book.debts[index]? = some debt) :
    (book.changeDebt index change).debts[index]? = some (change debt) := by
  rw [changeDebt, List.getElem?_modify_eq, debt_eq]
  rfl

theorem getElem?_changeFund_self {book : Book} {index : Nat} {fund : Fund}
    (change : Fund → Fund) (fund_eq : book.funds[index]? = some fund) :
    (book.changeFund index change).funds[index]? = some (change fund) := by
  rw [changeFund, List.getElem?_modify_eq, fund_eq]
  rfl

theorem source?_draw {book : Book} {means : Means} {source : Source} (amount : Int)
    (source_eq : book.source? means = some source) :
    (book.draw means amount).source? means = some (source.draw amount) := by
  cases means with
  | payment index =>
      obtain ⟨fund, fund_eq, rfl⟩ := Option.map_eq_some_iff.mp source_eq
      exact congrArg (Option.map Source.fund) (getElem?_changeFund_self (·.draw amount) fund_eq)
  | creditMemo index =>
      obtain ⟨debt, debt_eq, rfl⟩ := Option.map_eq_some_iff.mp source_eq
      exact congrArg (Option.map Source.creditMemo)
        (getElem?_changeDebt_self (·.charge (Parts.ofPay (-amount))) debt_eq)
  | purchaseInvoice index =>
      obtain ⟨debt, debt_eq, rfl⟩ := Option.map_eq_some_iff.mp source_eq
      exact congrArg (Option.map Source.purchaseInvoice)
        (getElem?_changeDebt_self (·.charge (Parts.ofPay (-amount))) debt_eq)

/-- A step deals exactly what its case says. -/
theorem deal?_eq_some_iff {policy : LeftoverPolicy} {book : Book} {step : Step} {deal : Deal} :
    book.deal? policy step = some deal ↔ Deals policy book step deal := by
  constructor
  · intro dealt
    cases step with
    | pair kind index means =>
        simp only [deal?, pairing?] at dealt
        split at dealt
        · rename_i debt source debt_eq source_eq
          split_ifs at dealt with conditions
          cases dealt
          exact .pair debt_eq source_eq conditions.1 conditions.2.1 conditions.2.2
        · cases dealt
    | leftover index =>
        simp only [deal?, leftover?] at dealt
        split at dealt
        · rename_i debt debt_eq
          split_ifs at dealt with conditions
          rw [concession?_eq _ (getElem?_changeDebt_self (·.move policy) debt_eq)] at dealt
          cases dealt
          exact .leftover debt_eq conditions.1 conditions.2
        · cases dealt
    | reverse inbound outbound =>
        simp only [deal?, reversal?] at dealt
        split at dealt
        · rename_i received made received_eq made_eq
          split_ifs at dealt with conditions
          cases dealt
          exact .reverse received_eq made_eq conditions.1 conditions.2.1 conditions.2.2
        · cases dealt
    | remainder index =>
        simp only [deal?, remainder?] at dealt
        split at dealt
        · rename_i debt debt_eq
          split_ifs at dealt with nothing
          rw [concession?_eq _ debt_eq] at dealt
          cases dealt
          exact .remainder debt_eq nothing
        · cases dealt
  · intro dealt
    cases dealt with
    | pair debt_eq source_eq debt_open source_open fits =>
        simp only [deal?, pairing?, debt_eq, source_eq]
        exact if_pos ⟨debt_open, source_open, fits⟩
    | leftover debt_eq debt_open moves =>
        simp only [deal?, leftover?, debt_eq]
        rw [if_pos ⟨debt_open, moves⟩]
        exact concession?_eq _ (getElem?_changeDebt_self (·.move policy) debt_eq)
    | reverse received_eq made_eq received_open made_open currency_eq =>
        simp only [deal?, reversal?, received_eq, made_eq]
        exact if_pos ⟨received_open, made_open, currency_eq⟩
    | remainder debt_eq carries =>
        simp only [deal?, remainder?, debt_eq]
        rw [if_neg carries]
        exact concession?_eq _ debt_eq

/-! ## Well-placed steps -/

end Book

/-- The kind of pairing that a means of payment takes part in. -/
def Means.pairingKind : Means → CandidateKind
  | .payment _ => .invoiceToPayment
  | .creditMemo _ => .invoiceToCreditMemo
  | .purchaseInvoice _ => .salesInvoiceToPurchaseInvoice

namespace Book

/-- A kind of pairing brings a debt together with a means of payment of its own: an invoice with
a credit memo, a sales invoice with a purchase invoice, or a debt with a fund. -/
def Serves (book : Book) : CandidateKind → Nat → Means → Prop
  | .invoiceToCreditMemo, index, .creditMemo other =>
      (∃ debt, book.debts[index]? = some debt ∧ debt.creditMemo = false) ∧
        ∃ memo, book.debts[other]? = some memo ∧ memo.creditMemo = true
  | .salesInvoiceToPurchaseInvoice, index, .purchaseInvoice other =>
      (∃ debt, book.debts[index]? = some debt ∧ debt.creditMemo = false ∧ debt.side = .sales) ∧
        ∃ bill, book.debts[other]? = some bill ∧ bill.creditMemo = false ∧ bill.side = .purchase
  | .invoiceToPayment, index, .payment other =>
      index < book.debts.length ∧ other < book.funds.length
  | _, _, _ => False

/-- A step names documents of the book that can take the parts it gives them. -/
def Placed (book : Book) : Step → Prop
  | .pair kind index means => book.Serves kind index means
  | .leftover index | .remainder index => index < book.debts.length
  | .reverse inbound outbound =>
      (∃ received, book.funds[inbound]? = some received ∧ 0 < received.initial) ∧
        ∃ made, book.funds[outbound]? = some made ∧ made.initial < 0

end Book

/-! ## Histories -/

/-- A book and the deals that led to it, in order. -/
structure History where
  book : Book
  deals : List Deal := []
  deriving DecidableEq, Repr

namespace History

/-- Adds a deal. -/
def record (history : History) (deal : Deal) : History :=
  { book := deal.after, deals := history.deals ++ [deal] }

/-- Goes on unless an error has stopped the settlement. -/
def proceed (advance : History × Option AllocationError)
    (next : History → History × Option AllocationError) : History × Option AllocationError :=
  match advance with
  | (history, none) => next history
  | (history, some error) => (history, some error)

/-- Makes a deal unless its entry is refused. -/
def settle (history : History) : Option Deal → History × Option AllocationError
  | none => (history, none)
  | some deal =>
      match deal.entry.refusal? with
      | none => (history.record deal, none)
      | some error => (history, some error)

/-- Takes one step. -/
def step (policy : LeftoverPolicy) (history : History) (step : Step) :
    History × Option AllocationError :=
  history.settle (history.book.deal? policy step)

/-- Takes steps in order, up to the first that is refused. -/
def runAll (policy : LeftoverPolicy) : List Step → History → History × Option AllocationError
  | [], history => (history, none)
  | step :: rest, history => proceed (history.step policy step) (runAll policy rest)

end History

namespace Book

/-- The steps of a pass over a book. -/
def steps (book : Book) : Pass → List Step
  | .creditMemos =>
      Step.pairAll .invoiceToCreditMemo (places (fun debt => !debt.creditMemo) book.debts)
        ((places (fun debt => debt.creditMemo) book.debts).map .creditMemo)
  | .compensation =>
      Step.pairAll .salesInvoiceToPurchaseInvoice
        (places (fun debt => !debt.creditMemo && debt.side.isSales) book.debts)
        ((places (fun debt => !debt.creditMemo && debt.side.isPurchase) book.debts).map
          .purchaseInvoice)
  | .payments =>
      Step.pairAll .invoiceToPayment (List.range book.debts.length)
        ((List.range book.funds.length).map .payment)
  | .reversals =>
      Step.reverseAll
        (places (fun fund => decide (0 < fund.remaining)) book.funds)
        (places (fun fund => decide (fund.remaining < 0)) book.funds)
  | .remainders => (List.range book.debts.length).map .remainder

/-- What the debts and funds of a book say, whatever has been settled. -/
def terms (book : Book) : List Debt.Terms × List Fund.Terms :=
  (book.debts.map Debt.toTerms, book.funds.map Fund.toTerms)

/-- Refuses documents that must not be settled under the settings. -/
def check (settings : Settings) (book : Book) : Except AllocationError Unit :=
  let (debts, funds) := book.terms
  let outbound := funds.filter fun fund => fund.direction.isOutbound
  let credits := debts.filter fun debt => debt.side.isPurchase && debt.creditMemo
  let bills := debts.filter fun debt => debt.side.isPurchase && !debt.creditMemo
  if debts.isEmpty && funds.isEmpty then
    .error .noDocuments
  else if settings.onlyOneVendorDocument ∧
      (1 < outbound.length ∨ 1 < bills.length ∨ 1 < credits.length) then
    .error (.multipleVendorDocuments
      (outbound.map Fund.Terms.reference ++ credits.map Debt.Terms.reference)
      (bills.map Debt.Terms.reference))
  else
    .ok ()

end Book

namespace History

/-- Runs passes in order, up to the first that is refused. -/
def runPasses (policy : LeftoverPolicy) :
    List Pass → History → History × Option AllocationError
  | [], history => (history, none)
  | pass :: rest, history =>
      proceed (history.runAll policy (history.book.steps pass)) (runPasses policy rest)

end History

/-- Settles a book under settings, as far as that goes. -/
def Book.settle (settings : Settings) (book : Book) : History × Option AllocationError :=
  match book.check settings with
  | .error error => ({ book }, some error)
  | .ok () => History.runPasses settings.leftover settings.passes { book }

/-- The histories that start from a book: no deal, or one more made by a well-placed step. -/
inductive Trail (policy : LeftoverPolicy) (start : Book) : History → Prop where
  | nil : Trail policy start { book := start }
  | snoc {history : History} {step : Step} {deal : Deal} (trail : Trail policy start history)
      (placed : history.book.Placed step) (dealt : Book.Deals policy history.book step deal)
      (accepted : deal.entry.refusal? = none) : Trail policy start (history.record deal)

end Settlement
