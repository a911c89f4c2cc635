import Mathlib.Algebra.BigOperators.Group.List.Basic
import Mathlib.Algebra.Order.BigOperators.Group.List
import Mathlib.Data.List.Induction
import Settlement.Proofs.Exact.Contributions
import Settlement.Proofs.Exact.Documents
import Settlement.Proofs.Outcomes

/-!
# Recordings in ticks

Amounts are recorded on documents directly or through whatever acts as a payment.  In ticks, each
recording charges one debt or draws from one fund, and a sequence of them charges every debt and
draws from every fund the sum of what is recorded there: in which order does not matter.
-/

namespace Settlement

/-- Something recorded on documents. -/
inductive Recording where
  /-- An amount is paid with a document. -/
  | pay (means : Means) (amount : Money)
  /-- Amounts are allocated to the payable at a place. -/
  | allocate (index : Nat) (amounts : Amounts)
  deriving DecidableEq, Repr

namespace Recording

/-- Records on documents, as far as it comes. -/
def apply (recording : Recording) (documents : Documents) : Attempt Documents :=
  match recording with
  | pay means amount => documents.pay means amount
  | allocate index amounts => documents.allocate index amounts

/-- The document is there, and what is recorded is in its currency with at most four fraction
digits. -/
def Fits (documents : Documents) : Recording → Prop
  | pay means amount => ∃ view, documents.view means = .ok view ∧ amount.Exact view.currency
  | allocate index amounts =>
      ∃ payable, documents.payable index = .ok payable ∧ amounts.Exact payable.currency

/-- What the recording charges the debt at a place. -/
def charged (place : Nat) : Recording → Parts
  | pay (.payment _) _ => 0
  | pay (.creditMemo index) amount | pay (.purchaseInvoice index) amount =>
      if index = place then Parts.ofPay (-amount.ticks) else 0
  | allocate index amounts => if index = place then amounts.parts else 0

/-- What the recording draws from the fund at a place. -/
def drawn (place : Nat) : Recording → Int
  | pay (.payment index) amount => if index = place then amount.ticks else 0
  | pay (.creditMemo _) _ | pay (.purchaseInvoice _) _ | allocate _ _ => 0

/-- What is recorded, without signs, in ticks. -/
def weight : Recording → Nat
  | pay _ amount => amount.ticks.natAbs
  | allocate _ amounts => amounts.parts.magnitude

theorem magnitude_charged_le (place : Nat) (recording : Recording) :
    (recording.charged place).magnitude ≤ recording.weight := by
  have paid : ∀ (index : Nat) (amount : Money),
      (if index = place then Parts.ofPay (-amount.ticks) else 0).magnitude ≤
        amount.ticks.natAbs := by
    intro index amount
    split_ifs
    · rw [Parts.magnitude_ofPay, Int.natAbs_neg]
    · exact Nat.zero_le _
  cases recording with
  | pay means amount =>
      cases means with
      | payment index => exact Nat.zero_le _
      | creditMemo index => exact paid index amount
      | purchaseInvoice index => exact paid index amount
  | allocate index amounts =>
      rw [charged]
      split_ifs
      · exact Nat.le_refl _
      · exact Nat.zero_le _

theorem natAbs_drawn_le (place : Nat) (recording : Recording) :
    (recording.drawn place).natAbs ≤ recording.weight := by
  cases recording with
  | pay means amount =>
      cases means with
      | payment index =>
          rw [drawn]
          split_ifs
          · exact Nat.le_refl _
          · exact Nat.zero_le _
      | creditMemo index => exact Nat.zero_le _
      | purchaseInvoice index => exact Nat.zero_le _
  | allocate index amounts => exact Nat.zero_le _

theorem magnitude_sum_charged_le (place : Nat) (recordings : List Recording) :
    (recordings.map (charged place)).sum.magnitude ≤ (recordings.map weight).sum := by
  induction recordings with
  | nil => exact Nat.le_refl _
  | cons recording rest ih =>
      rw [List.map_cons, List.sum_cons, List.map_cons, List.sum_cons]
      exact (Parts.magnitude_add_le _ _).trans
        (Nat.add_le_add (recording.magnitude_charged_le place) ih)

theorem natAbs_sum_drawn_le (place : Nat) (recordings : List Recording) :
    (recordings.map (drawn place)).sum.natAbs ≤ (recordings.map weight).sum := by
  induction recordings with
  | nil => exact Nat.le_refl _
  | cons recording rest ih =>
      rw [List.map_cons, List.sum_cons, List.map_cons, List.sum_cons]
      exact (Int.natAbs_add_le _ _).trans
        (Nat.add_le_add (recording.natAbs_drawn_le place) ih)

end Recording

/-! ## Books after recordings -/

/-- The magnitudes of the balances of a debt. -/
def Debt.weight (debt : Debt) : Nat := debt.remaining.magnitude + debt.allocated.magnitude

/-- The magnitudes of the balances of a fund. -/
def Fund.weight (fund : Fund) : Nat := fund.remaining.natAbs + fund.allocated.natAbs

namespace Book

/-- The magnitudes of all balances together. -/
def weight (book : Book) : Nat :=
  (book.debts.map Debt.weight).sum + (book.funds.map Fund.weight).sum

theorem debt_weight_le {book : Book} {place : Nat} {debt : Debt}
    (debt_eq : book.debts[place]? = some debt) : debt.weight ≤ book.weight := by
  have mem := List.mem_map_of_mem (f := Debt.weight) (List.mem_of_getElem? debt_eq)
  exact (List.single_le_sum (fun _ _ => Nat.zero_le _) _ mem).trans (Nat.le_add_right _ _)

theorem fund_weight_le {book : Book} {place : Nat} {fund : Fund}
    (fund_eq : book.funds[place]? = some fund) : fund.weight ≤ book.weight := by
  have mem := List.mem_map_of_mem (f := Fund.weight) (List.mem_of_getElem? fund_eq)
  exact (List.single_le_sum (fun _ _ => Nat.zero_le _) _ mem).trans (Nat.le_add_left _ _)

/-- A book in which everything recorded has been charged and drawn. -/
structure Posted (start : Book) (recordings : List Recording) (after : Book) : Prop where
  debts : ∀ place : Nat, after.debts[place]? = start.debts[place]?.map
    (·.charge (recordings.map (Recording.charged place)).sum)
  funds : ∀ place : Nat, after.funds[place]? = start.funds[place]?.map
    (·.draw (recordings.map (Recording.drawn place)).sum)

variable {start after after' : Book} {taken other : List Recording} {recording : Recording}

theorem Posted.nil (start : Book) : start.Posted [] start where
  debts place := by simp
  funds place := by simp

/-- What is posted last charges one debt and draws from no fund. -/
theorem Posted.charge (posted : start.Posted taken after) (index : Nat) (parts : Parts)
    (charged_eq : ∀ place, recording.charged place = if index = place then parts else 0)
    (drawn_eq : ∀ place, recording.drawn place = 0) :
    start.Posted (taken ++ [recording]) (after.charge index parts) where
  debts place := by
    rw [List.map_append, List.sum_append, List.map_singleton, List.sum_singleton, charged_eq,
      Book.charge, changeDebt, List.getElem?_modify, posted.debts]
    cases start.debts[place]? with
    | none => rfl
    | some debt => split_ifs <;> simp [Debt.charge, sub_sub, add_assoc]
  funds place := by
    rw [List.map_append, List.sum_append, List.map_singleton, List.sum_singleton, drawn_eq,
      Int.add_zero]
    exact posted.funds place

/-- What is posted last draws from one fund and charges no debt. -/
theorem Posted.draw (posted : start.Posted taken after) (index : Nat) (amount : Int)
    (charged_eq : ∀ place, recording.charged place = 0)
    (drawn_eq : ∀ place, recording.drawn place = if index = place then amount else 0) :
    start.Posted (taken ++ [recording]) (after.changeFund index (·.draw amount)) where
  debts place := by
    rw [List.map_append, List.sum_append, List.map_singleton, List.sum_singleton, charged_eq,
      add_zero]
    exact posted.debts place
  funds place := by
    rw [List.map_append, List.sum_append, List.map_singleton, List.sum_singleton, drawn_eq,
      changeFund, List.getElem?_modify, posted.funds]
    cases start.funds[place]? with
    | none => rfl
    | some fund => split_ifs <;> simp [Fund.draw, sub_sub, add_assoc]

/-- The order in which recordings are posted does not matter. -/
theorem Posted.unique (posted : start.Posted taken after) (posted' : start.Posted other after')
    (same : taken.Perm other) : after = after' := by
  obtain ⟨debts, funds⟩ := after
  obtain ⟨debts', funds'⟩ := after'
  congr
  · refine List.ext_getElem? fun place => ?_
    rw [posted.debts, posted'.debts, (same.map _).sum_eq]
  · refine List.ext_getElem? fun place => ?_
    rw [posted.funds, posted'.funds, (same.map _).sum_eq]

end Book

/-! ## Documents after recordings -/

namespace Documents

/-- Records one after the other, until one is cut short. -/
def recordAll (documents : Documents) (recordings : List Recording) : Attempt Documents :=
  recordings.foldl (fun attempt recording => attempt.andThen recording.apply)
    (.complete documents)

theorem recordAll_concat (documents : Documents) (taken : List Recording) (recording : Recording) :
    documents.recordAll (taken ++ [recording]) =
      (documents.recordAll taken).andThen recording.apply := by
  rw [recordAll, List.foldl_append]
  rfl

/-- Exact documents that are read as a book in which everything recorded has been posted. -/
structure Posted (start : Documents) (taken : List Recording) (now : Documents) : Prop where
  exact : now.Exact
  book : start.book.Posted taken now.book

variable {start now : Documents} {taken : List Recording} {recording : Recording}

theorem Posted.payable (posted : start.Posted taken now) {index : Nat} {payable : Payable}
    (payable_eq : start.payables[index]? = some payable) :
    ∃ found, now.payables[index]? = some found ∧ found.Exact ∧
      found.debt = payable.debt.charge (taken.map (Recording.charged index)).sum := by
  have debt_eq := posted.book.debts index
  rw [debt_of_payable payable_eq, Option.map_some] at debt_eq
  obtain ⟨found, found_eq, found_debt⟩ := debt_eq_some_iff.mp debt_eq
  exact ⟨found, found_eq, posted.exact.payable_exact found_eq, found_debt⟩

theorem Posted.payment (posted : start.Posted taken now) {index : Nat} {payment : Payment}
    (payment_eq : start.payments[index]? = some payment) :
    ∃ found, now.payments[index]? = some found ∧ found.Exact ∧
      found.fund = payment.fund.draw (taken.map (Recording.drawn index)).sum := by
  have fund_eq := posted.book.funds index
  rw [fund_of_payment payment_eq, Option.map_some] at fund_eq
  obtain ⟨found, found_eq, found_fund⟩ := fund_eq_some_iff.mp fund_eq
  exact ⟨found, found_eq, posted.exact.payment_exact found_eq, found_fund⟩

/-- Amounts that fit a payable are recorded on it after whatever has been recorded before. -/
theorem Posted.allocate (posted : start.Posted taken now) {index : Nat} {payable : Payable}
    (payable_eq : start.payables[index]? = some payable) {amounts : Amounts}
    (amounts_exact : amounts.Exact payable.currency)
    (charged_eq : ∀ place, recording.charged place = if index = place then amounts.parts else 0)
    (drawn_eq : ∀ place, recording.drawn place = 0)
    (small : start.book.weight + ((taken.map Recording.weight).sum + recording.weight) <
      coefficientLimit) :
    ∃ after, now.allocate index amounts = .complete after ∧
      start.Posted (taken ++ [recording]) after := by
  obtain ⟨found, found_eq, found_exact, found_debt⟩ := posted.payable payable_eq
  have currency_eq : found.currency = payable.currency :=
    congrArg (fun debt : Debt => debt.currency) found_debt
  have allocated_eq : found.allocated.parts = payable.allocated.parts +
      (taken.map (Recording.charged index)).sum := congrArg Debt.allocated found_debt
  have remaining_eq : found.remaining.parts = payable.remaining.parts -
      (taken.map (Recording.charged index)).sum := congrArg Debt.remaining found_debt
  have within : payable.remaining.parts.magnitude + payable.allocated.parts.magnitude ≤
      start.book.weight := Book.debt_weight_le (debt_of_payable payable_eq)
  have taken_le := Recording.magnitude_sum_charged_le index taken
  have parts_le : amounts.parts.magnitude ≤ recording.weight := by
    have charged_le := recording.magnitude_charged_le index
    rwa [charged_eq, if_pos rfl] at charged_le
  have allocated_le := Parts.magnitude_add_le payable.allocated.parts
    (taken.map (Recording.charged index)).sum
  have remaining_le := Parts.magnitude_sub_le payable.remaining.parts
    (taken.map (Recording.charged index)).sum
  rw [← allocated_eq] at allocated_le
  rw [← remaining_eq] at remaining_le
  have allocated_add := Parts.magnitude_add_le found.allocated.parts amounts.parts
  have remaining_sub := Parts.magnitude_sub_le found.remaining.parts amounts.parts
  have recorded : Payable.Becomes (found.debt.charge amounts.parts) (found.allocate amounts) :=
    Payable.allocate_recorded found_exact (currency_eq ▸ amounts_exact) (by omega) (by omega)
  have becomes : Becomes (now.book.charge index amounts.parts) (now.allocate index amounts) :=
    changePayable_becomes posted.exact found_eq recorded
  obtain ⟨after, after_eq, after_exact, after_book⟩ := becomes
  exact ⟨after, after_eq, after_exact,
    after_book ▸ posted.book.charge index amounts.parts charged_eq drawn_eq⟩

/-- An amount that fits a payment is recorded on it after whatever has been recorded before. -/
theorem Posted.use (posted : start.Posted taken now) {index : Nat} {payment : Payment}
    (payment_eq : start.payments[index]? = some payment) {amount : Money}
    (amount_exact : amount.Exact payment.currency)
    (small : start.book.weight + ((taken.map Recording.weight).sum + amount.ticks.natAbs) <
      coefficientLimit) :
    ∃ after, now.pay (.payment index) amount = .complete after ∧
      start.Posted (taken ++ [.pay (.payment index) amount]) after := by
  obtain ⟨found, found_eq, found_exact, found_fund⟩ := posted.payment payment_eq
  have currency_eq : found.currency = payment.currency :=
    congrArg (fun fund : Fund => fund.currency) found_fund
  have allocated_eq : found.allocated.ticks = payment.allocated.ticks +
      (taken.map (Recording.drawn index)).sum := congrArg Fund.allocated found_fund
  have remaining_eq : found.remaining.ticks = payment.remaining.ticks -
      (taken.map (Recording.drawn index)).sum := congrArg Fund.remaining found_fund
  have within : payment.remaining.ticks.natAbs + payment.allocated.ticks.natAbs ≤
      start.book.weight := Book.fund_weight_le (fund_of_payment payment_eq)
  have taken_le := Recording.natAbs_sum_drawn_le index taken
  have recorded : Payment.Becomes (found.fund.draw amount.ticks) (found.allocate amount) :=
    Payment.allocate_recorded found_exact (currency_eq ▸ amount_exact) (by omega) (by omega)
  have becomes : Becomes (now.book.changeFund index (·.draw amount.ticks))
      (now.pay (.payment index) amount) :=
    changePayment_becomes posted.exact found_eq recorded
  obtain ⟨after, after_eq, after_exact, after_book⟩ := becomes
  exact ⟨after, after_eq, after_exact,
    after_book ▸ posted.book.draw index amount.ticks (fun _ => rfl) fun _ => rfl⟩

/-- Whatever fits the documents is recorded after whatever has been recorded before. -/
theorem Posted.step (posted : start.Posted taken now) (fits : recording.Fits start)
    (small : start.book.weight + ((taken.map Recording.weight).sum + recording.weight) <
      coefficientLimit) :
    ∃ after, recording.apply now = .complete after ∧
      start.Posted (taken ++ [recording]) after := by
  have paid : ∀ {index : Nat} {payable : Payable} {amount : Money},
      start.payable index = .ok payable → amount.Exact payable.currency →
      (∀ place, recording.charged place =
        if index = place then Parts.ofPay (-amount.ticks) else 0) →
      (∀ place, recording.drawn place = 0) →
      ∃ after, now.allocate index (Amounts.ofPay amount.neg) = .complete after ∧
        start.Posted (taken ++ [recording]) after := by
    intro index payable amount payable_eq amount_exact charged_eq drawn_eq
    have parts_eq : (Amounts.ofPay amount.neg).parts = Parts.ofPay (-amount.ticks) := by
      rw [Amounts.parts_ofPay, Money.ticks_neg amount_exact]
    exact posted.allocate (entry_eq_ok.mp payable_eq) (Amounts.exact_ofPay amount_exact.neg)
      (parts_eq ▸ charged_eq) drawn_eq small
  cases recording with
  | pay means amount =>
      obtain ⟨view, view_eq, amount_exact⟩ := fits
      cases means with
      | payment index =>
          obtain ⟨payment, payment_eq, rfl⟩ := map_eq_ok.mp view_eq
          exact posted.use (entry_eq_ok.mp payment_eq) amount_exact small
      | creditMemo index =>
          obtain ⟨payable, payable_eq, rfl⟩ := map_eq_ok.mp view_eq
          exact paid payable_eq amount_exact (fun _ => rfl) fun _ => rfl
      | purchaseInvoice index =>
          obtain ⟨payable, payable_eq, rfl⟩ := map_eq_ok.mp view_eq
          exact paid payable_eq amount_exact (fun _ => rfl) fun _ => rfl
  | allocate index amounts =>
      obtain ⟨payable, payable_eq, amounts_exact⟩ := fits
      exact posted.allocate (entry_eq_ok.mp payable_eq) amounts_exact (fun _ => rfl)
        (fun _ => rfl) small

/-- Recordings that fit the documents and are small together with all balances come to their end,
in whichever order they are made. -/
theorem Exact.recordAll (exact : start.Exact) (fits : ∀ recording ∈ taken, recording.Fits start)
    (small : start.book.weight + (taken.map Recording.weight).sum < coefficientLimit) :
    ∃ after, start.recordAll taken = .complete after ∧ start.Posted taken after := by
  induction taken using List.reverseRecOn with
  | nil => exact ⟨start, rfl, exact, .nil _⟩
  | append_singleton taken recording ih =>
      rw [List.map_append, List.sum_append, List.map_singleton, List.sum_singleton] at small
      obtain ⟨now, now_eq, posted⟩ := ih (fun other mem => fits other (by simp [mem])) (by omega)
      obtain ⟨after, after_eq, after_posted⟩ := posted.step (fits recording (by simp)) small
      refine ⟨after, ?_, after_posted⟩
      rw [recordAll_concat, now_eq, Attempt.andThen_complete, after_eq]

end Documents
end Settlement
