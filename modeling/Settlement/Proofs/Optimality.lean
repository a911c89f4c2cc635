import Settlement.Proofs.Balances
import Settlement.Proofs.Exact.Signed
import Settlement.Proofs.Maximality
import Settlement.Proofs.OrderIndependence
import Settlement.Proofs.Recording

/-!
# Greedy settlement

A settlement pairs documents in the order in which they are given, and never takes back what it has
paired.  Where there are no credit memos and nothing is compensated, this settles as much as there
is to settle: in every currency and on either side of zero the smaller of what is owed and what is
paid, and of what the payments have left then, the smaller of what has been received and what has
been made.
-/

namespace Settlement

/-- The sign of what flows in the direction. -/
def Direction.signType : Direction → SignType
  | inbound => 1
  | outbound => -1

/-- What candidates between payables and payments pay in a currency with a sign. -/
def RunResult.paidToward (result : RunResult) (currency : Currency) (sign : SignType) : Rat :=
  total (fun candidate => candidate.kind == .invoiceToPayment && candidate.currency == currency &&
    SignType.sign candidate.amounts.pay.amount.value == sign) (·.amounts.pay) result.candidates

namespace Documents

/-- What payables of a currency and a sign have been given to pay. -/
def owed (documents : Documents) (currency : Currency) (sign : SignType) : Rat :=
  totalMagnitude (fun payable => payable.currency == currency &&
    SignType.sign payable.initial.pay.amount.value == sign) (·.initial.pay) documents.payables

/-- What payments of a currency and a sign have been given to pay with. -/
def offered (documents : Documents) (currency : Currency) (sign : SignType) : Rat :=
  totalMagnitude (fun payment => payment.currency == currency &&
    SignType.sign payment.initial.amount.value == sign) (·.initial) documents.payments

/-- What is left open on the payments of a currency and a direction. -/
def leftOpen (documents : Documents) (currency : Currency) (direction : Direction) : Rat :=
  totalMagnitude (fun payment => payment.currency == currency && payment.direction == direction)
    (·.remaining) documents.payments

end Documents

/-- How far a run that compensates nothing settles up to the end of its payments. -/
def Run.afterPayments (run : Run) : Progress :=
  (Pass.runAll run.settings.leftover [.creditMemos, .payments] { documents := run.documents }).1

/-- A run pays and reverses as much as its documents allow. -/
structure Run.SettlesOptimally (run : Run) (result : RunResult) : Prop where
  /-- In every currency and with every sign, payments pay the smaller of what is owed and what is
  offered. -/
  paid : ∀ (currency : Currency) (sign : SignType),
    result.paidToward currency sign =
      sign * min (run.documents.owed currency sign) (run.documents.offered currency sign)
  /-- The settlement goes on with the reversals where the payments have come to. -/
  continued : run.documents.settle run.settings =
    Pass.runAll run.settings.leftover [.reversals, .remainders] run.afterPayments
  /-- The payments have left open what they have not paid. -/
  left : ∀ (currency : Currency) (direction : Direction),
    run.afterPayments.documents.leftOpen currency direction =
      run.documents.offered currency direction.signType -
        min (run.documents.owed currency direction.signType)
          (run.documents.offered currency direction.signType)
  /-- In every currency, the reversals pay the smaller of what is left open in both directions,
  below zero. -/
  reversed : ∀ currency : Currency,
    result.paid .inboundPaymentToOutboundPayment currency =
      -min (run.afterPayments.documents.leftOpen currency .inbound)
        (run.afterPayments.documents.leftOpen currency .outbound)

/-! ## In ticks -/

/-- An exact amount has the sign of a direction when its ticks have. -/
theorem Money.Exact.sign_iff {currency : Currency} {money : Money} (exact : money.Exact currency)
    (direction : Direction) :
    SignType.sign money.amount.value = direction.signType ↔
      money.ticks.sign = direction.sign := by
  rw [← exact.sign_value]
  generalize SignType.sign money.amount.value = sign
  cases direction <;> cases sign <;> decide

/-- Amounts with the sign of a direction count by their magnitude. -/
theorem Direction.sign_mul {direction : Direction} {amount : Int}
    (same : amount.sign = direction.sign) : direction.sign * amount = amount.natAbs := by
  rw [← same, Int.sign_mul_self]

theorem Direction.sign_inj {direction other : Direction} :
    direction.sign = other.sign ↔ direction = other := by
  cases direction <;> cases other <;> decide

theorem Within.sign_eq {amount bound : Int} (within : Within amount bound)
    (some_left : amount ≠ 0) : bound.sign = amount.sign := by
  unfold Within at within
  rcases lt_or_gt_of_ne some_left with negative | positive
  · rw [Int.sign_eq_neg_one_of_neg negative, Int.sign_eq_neg_one_of_neg (by omega)]
  · rw [Int.sign_eq_one_of_pos positive, Int.sign_eq_one_of_pos (by omega)]

namespace Documents

variable {documents : Documents}

theorem outstanding_ofDebts (documents : Documents) (currency : Currency) (direction : Direction) :
    documents.book.outstanding (.ofDebts (fun _ => true) currency direction) =
      (documents.payables.map fun payable =>
        (Weights.ofDebts (fun _ => true) currency direction).debt payable.debt.toTerms *
          payable.debt.remaining.pay).sum := by
  simp [Book.outstanding, Book.weigh, book, Weights.ofDebts, Function.comp_def]

theorem outstanding_ofFunds (documents : Documents) (currency : Currency) (direction : Direction) :
    documents.book.outstanding (.ofFunds currency direction) =
      (documents.payments.map fun payment =>
        (Weights.ofFunds currency direction).fund payment.fund.toTerms *
          payment.fund.remaining).sum := by
  simp [Book.outstanding, Book.weigh, book, Weights.ofFunds, Function.comp_def]

/-- What fresh payables have been given to pay is outstanding. -/
theorem Fresh.owed_eq (fresh : documents.Fresh) (currency : Currency) (direction : Direction) :
    documents.owed currency direction.signType =
      (documents.book.outstanding (.ofDebts (fun _ => true) currency direction) : Rat) /
        tenTo Money.places := by
  rw [outstanding_ofDebts]
  apply totalMagnitude_eq
  · exact fun payable mem => (fresh.payables payable mem).pay_places
  · intro payable mem
    have payable_fresh := fresh.payables payable mem
    rw [payable_fresh.debt_remaining]
    simp only [Weights.ofDebts, Payable.debt, Amounts.parts, true_and, Bool.and_eq_true,
      beq_iff_eq, payable_fresh.exact.initial.pay.sign_iff]
    split_ifs with counts
    · exact Direction.sign_mul counts.2
    · exact zero_mul _

/-- What fresh payments have been given to pay with is outstanding. -/
theorem Fresh.offered_eq (fresh : documents.Fresh) (currency : Currency) (direction : Direction) :
    documents.offered currency direction.signType =
      (documents.book.outstanding (.ofFunds currency direction) : Rat) / tenTo Money.places := by
  rw [outstanding_ofFunds]
  apply totalMagnitude_eq
  · exact fun payment mem => (fresh.payments payment mem).places
  · intro payment mem
    have payment_fresh := fresh.payments payment mem
    rw [payment_fresh.fund_remaining]
    simp only [Weights.ofFunds, Payment.fund, Bool.and_eq_true, beq_iff_eq,
      payment_fresh.exact.initial.sign_iff]
    split_ifs with counts
    · exact Direction.sign_mul counts.2
    · exact zero_mul _

/-- What is left open on payments is outstanding. -/
theorem leftOpen_eq {policy : LeftoverPolicy} (exact : documents.Exact)
    (sound : documents.book.Sound policy)
    (signs : ∀ payment ∈ documents.payments,
      (payment.direction = .inbound → 0 ≤ payment.fund.remaining) ∧
        (payment.direction = .outbound → payment.fund.remaining ≤ 0))
    (currency : Currency) (direction : Direction) :
    documents.leftOpen currency direction =
      (documents.book.outstanding (.ofFunds currency direction) : Rat) / tenTo Money.places := by
  rw [outstanding_ofFunds]
  apply totalMagnitude_eq
  · exact fun payment mem => (exact.payments payment mem).remaining.grid
  · intro payment mem
    obtain ⟨inbound, outbound⟩ := signs payment mem
    have within := (sound.funds payment.fund (List.mem_map_of_mem mem)).remaining_within
    by_cases used : payment.fund.remaining = 0
    · have nothing : payment.remaining.ticks = 0 := used
      rw [used, mul_zero, nothing, Int.natAbs_zero, Int.natCast_zero, ite_self]
    · have left_sign : payment.fund.remaining.sign = payment.direction.sign := by
        cases side : payment.direction with
        | inbound => exact Int.sign_eq_one_of_pos (by have := inbound side; omega)
        | outbound => exact Int.sign_eq_neg_one_of_neg (by have := outbound side; omega)
      have initial_sign : payment.initial.ticks.sign = payment.direction.sign :=
        (within.sign_eq used).trans left_sign
      simp only [Weights.ofFunds, Payment.fund, Bool.and_eq_true, beq_iff_eq, initial_sign,
        Direction.sign_inj]
      split_ifs with counts
      · exact Direction.sign_mul (left_sign.trans (congrArg Direction.sign counts.2))
      · exact zero_mul _

end Documents

/-! ## Settlements -/

namespace Run

variable {τ : Type} [TransactionManager τ] {run : Run}

/-- A settlement that comes to its end without compensation goes on from its payments. -/
theorem settle_continued (no_compensation : run.settings.compensation = false)
    (ended : (run.documents.settle run.settings).2 = none) :
    run.documents.settle run.settings =
      Pass.runAll run.settings.leftover [.reversals, .remainders] run.afterPayments := by
  have passes_eq : run.settings.passes =
      [.creditMemos, .payments] ++ [.reversals, .remainders] := by
    rw [Settings.passes, no_compensation]
    rfl
  unfold Documents.settle at ended ⊢
  split at ended
  · cases ended
  · rw [passes_eq, Pass.runAll_append] at ended ⊢
    exact (Progress.proceed_ended ended).2

theorem afterPayments_follows (fresh : run.documents.Fresh) :
    Progress.Follows (Pass.runAll run.settings.leftover [.creditMemos, .payments]
        { documents := run.documents })
      (({ book := run.documents.book } : History).runPasses run.settings.leftover
        [.creditMemos, .payments]) := by
  have exact : Progress.Exact { documents := run.documents } :=
    ⟨fresh.exact, fun _ mem => absurd mem List.not_mem_nil⟩
  exact Progress.passes_follow exact (fresh.sound run.settings.leftover) [.creditMemos, .payments]

theorem plain_debts (no_memos : ∀ payable ∈ run.documents.payables, payable.creditMemo = false) :
    ∀ debt ∈ run.documents.book.debts, debt.creditMemo = false := by
  intro debt mem
  obtain ⟨payable, payable_mem, rfl⟩ := List.mem_map.mp mem
  exact no_memos payable payable_mem

theorem afterPayments_book (fresh : run.documents.Fresh)
    (no_memos : ∀ payable ∈ run.documents.payables, payable.creditMemo = false) :
    run.afterPayments.documents.book =
      (run.documents.book.afterPayments run.settings.leftover).book := by
  rw [← Book.runPasses_payments (plain_debts no_memos)]
  exact congrArg History.book (afterPayments_follows fresh).history_eq

/-- What is left open after the payments is outstanding in the book after them. -/
theorem leftOpen_afterPayments (fresh : run.documents.Fresh)
    (no_memos : ∀ payable ∈ run.documents.payables, payable.creditMemo = false)
    (currency : Currency) (direction : Direction) :
    run.afterPayments.documents.leftOpen currency direction =
      ((run.documents.book.afterPayments run.settings.leftover).book.outstanding
        (.ofFunds currency direction) : Rat) / tenTo Money.places := by
  have sound : ({ book := run.documents.book } : History).book.Sound run.settings.leftover :=
    fresh.sound run.settings.leftover
  have later := History.later_pass sound .payments
  have book_eq := afterPayments_book fresh no_memos
  rw [Book.afterPayments, History.afterPass] at book_eq
  rw [← book_eq] at later
  have exact : run.afterPayments.documents.Exact := (afterPayments_follows fresh).exact.documents
  rw [Documents.leftOpen_eq exact later.sound (fresh.signs later), book_eq]
  rfl

/-- Candidates that pay nothing pay nothing together. -/
theorem paidToward_zero (result : RunResult) (currency : Currency) :
    result.paidToward currency 0 = 0 := by
  rw [RunResult.paidToward, total]
  apply List.sum_eq_zero
  intro value mem
  obtain ⟨candidate, selected, rfl⟩ := List.mem_map.mp mem
  have sign_eq := (List.mem_filter.mp selected).2
  rw [Bool.and_eq_true, beq_iff_eq] at sign_eq
  exact sign_eq_zero_iff.mp sign_eq.2

/-! ## Results -/

namespace Returns

variable {manager : Option τ} {result : RunResult} (returns : run.Returns manager result)
  (fresh : run.documents.Fresh)

include returns fresh

theorem book_ended : (run.documents.book.settle run.settings).2 = none :=
  (Documents.ended_book fresh.exact (fresh.sound run.settings.leftover) returns.settled).1

theorem history_settle : run.progress.history = (run.documents.book.settle run.settings).1 := by
  have follows := Documents.settle_follows fresh.exact (fresh.sound run.settings.leftover)
  rw [progress_of_unbuilt returns.unbuilt, follows.history_eq]

/-- What candidates pay in a direction is what their deals pay. -/
theorem paidToward_eq (currency : Currency) (direction : Direction) :
    result.paidToward currency direction.signType =
      (run.progress.history.paidBy (Entry.PaysToward currency direction) : Rat) /
        tenTo Money.places := by
  have exact := progress_exact fresh
  rw [RunResult.paidToward, returns.candidates_progress]
  apply exact.total_paidBy
  intro candidate mem
  obtain ⟨posting, posting_mem, rfl⟩ := List.mem_map.mp mem
  have pay_exact := (exact.postings posting posting_mem).candidate.amounts.pay
  rw [Bool.and_eq_true, Bool.and_eq_true, beq_iff_eq, beq_iff_eq, beq_iff_eq, and_assoc,
    pay_exact.sign_iff]
  rfl

variable (no_memos : ∀ payable ∈ run.documents.payables, payable.creditMemo = false)
  (no_compensation : run.settings.compensation = false)

include no_memos no_compensation

/-- Payments pay in every direction the smaller of what is owed and what is offered. -/
theorem paidToward_min (currency : Currency) (direction : Direction) :
    result.paidToward currency direction.signType =
      direction.sign * min (run.documents.owed currency direction.signType)
        (run.documents.offered currency direction.signType) := by
  have ended := returns.book_ended fresh
  rw [returns.paidToward_eq fresh, returns.history_settle fresh,
    Book.settle_paysToward (plain_debts no_memos) no_compensation ended (fresh.sound _),
    fresh.owed_eq, fresh.offered_eq, min_div_div_right (Decimal.tenTo_rat_pos _).le,
    ← mul_div_assoc]
  push_cast
  rfl

theorem leftOpen_sub_min (currency : Currency) (direction : Direction) :
    run.afterPayments.documents.leftOpen currency direction =
      run.documents.offered currency direction.signType -
        min (run.documents.owed currency direction.signType)
          (run.documents.offered currency direction.signType) := by
  have ended := returns.book_ended fresh
  have payments_ended := (Book.settle_phases (plain_debts no_memos) no_compensation ended).1
  have sound : ({ book := run.documents.book } : History).book.Sound run.settings.leftover :=
    fresh.sound run.settings.leftover
  have left := History.payments_left sound payments_ended currency direction
  rw [leftOpen_afterPayments fresh no_memos, fresh.owed_eq, fresh.offered_eq,
    min_div_div_right (Decimal.tenTo_rat_pos _).le, ← sub_div, Book.afterPayments, left]
  push_cast
  rfl

/-- Reversals pay the smaller of what is left open in both directions, below zero. -/
theorem reversed_min (currency : Currency) :
    result.paid .inboundPaymentToOutboundPayment currency =
      -min (run.afterPayments.documents.leftOpen currency .inbound)
        (run.afterPayments.documents.leftOpen currency .outbound) := by
  have ended := returns.book_ended fresh
  rw [RunResult.paid, returns.candidates_progress, (progress_exact fresh).total_paid,
    returns.history_settle fresh,
    Book.settle_reverses (plain_debts no_memos) no_compensation ended (fresh.sound _),
    leftOpen_afterPayments fresh no_memos, leftOpen_afterPayments fresh no_memos,
    min_div_div_right (Decimal.tenTo_rat_pos _).le, ← neg_div]
  push_cast
  rfl

end Returns

/-- A build of fresh documents without credit memos, with compensation turned off, settles
optimally, whatever it does with what stays open of payables. -/
theorem build_optimal (run : Run) (manager : Option τ) {result : RunResult}
    (fresh : run.documents.Fresh)
    (no_memos : ∀ payable ∈ run.documents.payables, payable.creditMemo = false)
    (no_compensation : run.settings.compensation = false)
    (returned : (run.build manager).result = .ok result) : run.SettlesOptimally result := by
  have returns := returns_of_result returned
  have paid := returns.paidToward_min fresh no_memos no_compensation
  constructor
  · intro currency sign
    cases sign with
    | zero => exact (paidToward_zero result currency).trans (zero_mul _).symm
    | pos =>
        have inbound := paid currency .inbound
        rw [Direction.sign, Int.cast_one] at inbound
        exact inbound
    | neg =>
        have outbound := paid currency .outbound
        rw [Direction.sign, Int.cast_neg, Int.cast_one] at outbound
        exact outbound
  · exact settle_continued no_compensation returns.settled
  · exact returns.leftOpen_sub_min fresh no_memos no_compensation
  · exact returns.reversed_min fresh no_memos no_compensation

end Run

/-- A dry run over a sales invoice, a purchase invoice and payments in both directions that exceed
them. -/
def Samples.overpaid : Run where
  documents :=
    { payables := [invoice 1 .sales false 10025 200 100, invoice 2 .purchase false (-2000) 0 0]
      payments := [payment 3 .inbound 12000, payment 4 .outbound 3500] }
  settings := { compensation := false }
  dryRun := true

theorem Samples.overpaid_fresh : Samples.overpaid.documents.Fresh where
  payables := by
    simp only [overpaid, List.mem_cons, List.not_mem_nil, or_false, forall_eq_or_imp, forall_eq]
    exact ⟨invoice_fresh (by decide +kernel), invoice_fresh (by decide +kernel)⟩
  payments := by
    simp only [overpaid, List.mem_cons, List.not_mem_nil, or_false, forall_eq_or_imp, forall_eq]
    exact ⟨payment_fresh (by decide) (by decide +kernel),
      payment_fresh (by decide) (by decide +kernel)⟩

/-- Both invoices are paid in full, and the smaller of the two rests is reversed. -/
theorem Run.build_optimal_overpaid :
    Samples.overpaid.documents.Fresh ∧
      (∀ payable ∈ Samples.overpaid.documents.payables, payable.creditMemo = false) ∧
      Samples.overpaid.settings.compensation = false ∧
      ∃ result, (Samples.overpaid.build (none : Option MemoryManager)).result = .ok result ∧
        result.paidToward .usd 1 = 10025 / 100 ∧ result.paidToward .usd (-1) = -20 ∧
        result.paid .inboundPaymentToOutboundPayment .usd = -15 ∧
        Samples.overpaid.SettlesOptimally result := by
  have no_memos : ∀ payable ∈ Samples.overpaid.documents.payables, payable.creditMemo = false := by
    decide
  have ended : (Samples.overpaid.documents.settle Samples.overpaid.settings).2 = none := by
    decide +kernel
  have returned : (Samples.overpaid.build (none : Option MemoryManager)).result = .ok _ :=
    result_of_dry rfl rfl ended
  have optimal := build_optimal Samples.overpaid (none : Option MemoryManager)
    Samples.overpaid_fresh no_memos rfl returned
  refine ⟨Samples.overpaid_fresh, no_memos, rfl, _, returned, ?_, ?_, ?_, optimal⟩
  · decide +kernel
  · decide +kernel
  · decide +kernel

end Settlement
