import Mathlib.Algebra.BigOperators.Group.List.Basic
import Mathlib.Tactic.Ring
import Settlement.Proofs.Exact.Trail

/-!
# Weighed books

Weights turn the balances of a book into one number.  A deal adds its amount to what has been
allocated on both of its sides, so what has been allocated weighs more by the amount times the
weights of the two sides.  Where these cancel out, no deal changes the number.
-/

namespace Settlement

/-- The sum over a list after one entry has changed. -/
theorem sum_map_modify {α : Type} (measure : α → Int) {entries : List α} {index : Nat} {entry : α}
    (change : α → α) (entry_eq : entries[index]? = some entry) :
    ((entries.modify index change).map measure).sum =
      (entries.map measure).sum + (measure (change entry) - measure entry) := by
  induction entries generalizing index with
  | nil => cases entry_eq
  | cons first rest ih =>
      cases index with
      | zero =>
          obtain rfl : first = entry := Option.some.inj entry_eq
          simp only [List.modify_zero_cons, List.map_cons, List.sum_cons]
          omega
      | succ index =>
          have later_eq : rest[index]? = some entry := entry_eq
          simp only [List.modify_succ_cons, List.map_cons, List.sum_cons, ih later_eq]
          omega

/-- How much debts and funds count, by what they say. -/
structure Weights where
  debt : Debt.Terms → Int
  fund : Fund.Terms → Int

namespace Weights

instance : Add Weights :=
  ⟨fun left right =>
    ⟨fun terms => left.debt terms + right.debt terms,
      fun terms => left.fund terms + right.fund terms⟩⟩

instance : Neg Weights :=
  ⟨fun weights => ⟨fun terms => -weights.debt terms, fun terms => -weights.fund terms⟩⟩

@[simp] theorem debt_add (left right : Weights) (terms : Debt.Terms) :
    (left + right).debt terms = left.debt terms + right.debt terms := rfl

@[simp] theorem fund_add (left right : Weights) (terms : Fund.Terms) :
    (left + right).fund terms = left.fund terms + right.fund terms := rfl

@[simp] theorem debt_neg (weights : Weights) (terms : Debt.Terms) :
    (-weights).debt terms = -weights.debt terms := rfl

@[simp] theorem fund_neg (weights : Weights) (terms : Fund.Terms) :
    (-weights).fund terms = -weights.fund terms := rfl

/-- How much a document counts that acts as a payment; a debt then counts with the other sign. -/
def source (weights : Weights) : Source → Int
  | .fund document => weights.fund document.toTerms
  | .creditMemo document | .purchaseInvoice document => -weights.debt document.toTerms

end Weights

namespace Book

variable {policy : LeftoverPolicy} {book : Book} {weights : Weights}

/-- One number for each document, weighed and added up. -/
def weigh (weights : Weights) (debt : Debt → Int) (fund : Fund → Int) (book : Book) : Int :=
  (book.debts.map fun found => weights.debt found.toTerms * debt found).sum +
    (book.funds.map fun found => weights.fund found.toTerms * fund found).sum

/-- What has been allocated to all documents, weighed. -/
def settled (weights : Weights) (book : Book) : Int :=
  book.weigh weights (·.allocated.pay) (·.allocated)

/-- What is left of all documents, weighed. -/
def outstanding (weights : Weights) (book : Book) : Int :=
  book.weigh weights (·.remaining.pay) (·.remaining)

theorem weigh_add (first second : Weights) (debt : Debt → Int) (fund : Fund → Int) (book : Book) :
    book.weigh (first + second) debt fund =
      book.weigh first debt fund + book.weigh second debt fund := by
  simp only [weigh, Weights.debt_add, Weights.fund_add, add_mul, List.sum_map_add]
  omega

theorem weigh_neg (weights : Weights) (debt : Debt → Int) (fund : Fund → Int) (book : Book) :
    book.weigh (-weights) debt fund = -book.weigh weights debt fund := by
  simp only [weigh, Weights.debt_neg, Weights.fund_neg, neg_mul, neg_add, List.sum_neg,
    List.map_map]
  rfl

theorem weigh_changeDebt (weights : Weights) (debt : Debt → Int) (fund : Fund → Int)
    {index : Nat} {found : Debt} {change : Debt → Debt}
    (found_eq : book.debts[index]? = some found)
    (terms_eq : (change found).toTerms = found.toTerms) :
    (book.changeDebt index change).weigh weights debt fund =
      book.weigh weights debt fund +
        weights.debt found.toTerms * (debt (change found) - debt found) := by
  simp only [weigh, changeDebt, sum_map_modify _ change found_eq, terms_eq]
  ring

theorem weigh_changeFund (weights : Weights) (debt : Debt → Int) (fund : Fund → Int)
    {index : Nat} {found : Fund} {change : Fund → Fund}
    (found_eq : book.funds[index]? = some found)
    (terms_eq : (change found).toTerms = found.toTerms) :
    (book.changeFund index change).weigh weights debt fund =
      book.weigh weights debt fund +
        weights.fund found.toTerms * (fund (change found) - fund found) := by
  simp only [weigh, changeFund, sum_map_modify _ change found_eq, terms_eq]
  ring

/-! ## What one deal changes -/

theorem settled_charge (weights : Weights) {index : Nat} {debt : Debt} (parts : Parts)
    (debt_eq : book.debts[index]? = some debt) :
    (book.charge index parts).settled weights =
      book.settled weights + weights.debt debt.toTerms * parts.pay := by
  rw [settled, charge, weigh_changeDebt _ _ _ debt_eq (Debt.terms_charge debt parts), settled]
  simp

theorem settled_changeFund (weights : Weights) {index : Nat} {fund : Fund} (amount : Int)
    (fund_eq : book.funds[index]? = some fund) :
    (book.changeFund index (·.draw amount)).settled weights =
      book.settled weights + weights.fund fund.toTerms * amount := by
  rw [settled, weigh_changeFund _ _ _ fund_eq (Fund.terms_draw fund amount), settled]
  simp

theorem settled_draw (weights : Weights) {means : Means} {source : Source} (amount : Int)
    (source_eq : book.source? means = some source) :
    (book.draw means amount).settled weights =
      book.settled weights + weights.source source * amount := by
  cases means with
  | payment index =>
      obtain ⟨fund, fund_eq, rfl⟩ := Option.map_eq_some_iff.mp source_eq
      exact settled_changeFund weights amount fund_eq
  | creditMemo index =>
      obtain ⟨debt, debt_eq, rfl⟩ := Option.map_eq_some_iff.mp source_eq
      rw [draw, settled_charge weights _ debt_eq, Weights.source, Parts.pay_ofPay]
      ring
  | purchaseInvoice index =>
      obtain ⟨debt, debt_eq, rfl⟩ := Option.map_eq_some_iff.mp source_eq
      rw [draw, settled_charge weights _ debt_eq, Weights.source, Parts.pay_ofPay]
      ring

/-- A pairing counts on both of its sides. -/
theorem settled_pair (weights : Weights) {kind : CandidateKind} {index : Nat} {means : Means}
    {debt : Debt} {source : Source} (serves : book.Serves kind index means)
    (debt_eq : book.debts[index]? = some debt) (source_eq : book.source? means = some source) :
    ((book.charge index (offer debt source)).draw means (source.share debt)).settled weights =
      book.settled weights +
        (weights.debt debt.toTerms + weights.source source) * source.share debt := by
  have charged := (serves.source?_charge (offer debt source)).trans source_eq
  rw [settled_draw weights _ charged, settled_charge weights _ debt_eq, offer]
  ring

/-- What is settled without a payment does not count. -/
theorem settled_leftover (weights : Weights) {index : Nat} {debt : Debt}
    (debt_eq : book.debts[index]? = some debt) (moves : policy ≠ .leaveOpen) :
    ((book.changeDebt index (·.move policy)).charge index
      (debt.move policy).remaining).settled weights = book.settled weights := by
  have moved := getElem?_changeDebt_self (·.move policy) debt_eq
  have nothing : (debt.move policy).remaining.pay = 0 := by
    cases policy with
    | leaveOpen => exact absurd rfl moves
    | discount => rfl
    | writeOff => rfl
  rw [settled_charge weights _ moved, nothing, settled,
    weigh_changeDebt _ _ _ debt_eq (Debt.terms_move policy debt), settled]
  simp

/-- A reversal counts for the payment made and against the payment received. -/
theorem settled_reverse (weights : Weights) {inbound outbound : Nat} {received made : Fund}
    (placed : book.Placed (.reverse inbound outbound))
    (received_eq : book.funds[inbound]? = some received)
    (made_eq : book.funds[outbound]? = some made) (amount : Int) :
    ((book.changeFund outbound (·.draw amount)).changeFund inbound
      (·.draw (-amount))).settled weights =
      book.settled weights +
        (weights.fund made.toTerms - weights.fund received.toTerms) * amount := by
  have still := (getElem?_changeFund_ne placed.reverse_ne.symm (·.draw amount)).trans received_eq
  rw [settled_changeFund weights _ still, settled_changeFund weights _ made_eq]
  ring

end Book

/-- Whatever is settled with each other counts the same on both sides. -/
structure Weights.Balanced (weights : Weights) : Prop where
  pair : ∀ (source : Source) (debt : Debt), source.Fits debt →
    weights.debt debt.toTerms + weights.source source = 0
  reverse : ∀ received made : Fund.Terms, made.currency = received.currency →
    weights.fund made = weights.fund received

/-- Balanced weights do not notice a deal. -/
theorem Book.Deals.settled_eq {policy : LeftoverPolicy} {book : Book} {weights : Weights}
    (balanced : weights.Balanced) {step : Step} {deal : Deal}
    (dealt : Deals policy book step deal) (placed : book.Placed step) :
    deal.after.settled weights = book.settled weights := by
  cases dealt with
  | pair debt_eq source_eq debt_open source_open fits =>
      rw [settled_pair weights placed debt_eq source_eq, balanced.pair _ _ fits, zero_mul,
        add_zero]
  | leftover debt_eq debt_open moves => exact settled_leftover weights debt_eq moves
  | reverse received_eq made_eq received_open made_open currency_eq =>
      rw [settled_reverse weights placed received_eq made_eq,
        balanced.reverse _ _ currency_eq, sub_self, zero_mul, add_zero]
  | remainder debt_eq carries =>
      rw [settled_charge weights _ debt_eq, mul_zero, add_zero]

/-- Along a trail, every deal leaves balanced weights where they were. -/
theorem Trail.settled_eq {policy : LeftoverPolicy} {start : Book} {history : History}
    {weights : Weights} (balanced : weights.Balanced) (trail : Trail policy start history) :
    history.book.settled weights = start.settled weights ∧
      ∀ deal ∈ history.deals, deal.after.settled weights = start.settled weights := by
  induction trail with
  | nil => exact ⟨rfl, by simp⟩
  | snoc trail placed dealt accepted ih =>
      have after := (dealt.settled_eq balanced placed).trans ih.1
      refine ⟨after, fun other mem => ?_⟩
      rcases List.mem_append.mp mem with earlier | last
      · exact ih.2 other earlier
      · exact List.mem_singleton.mp last ▸ after

end Settlement
