import Mathlib.Algebra.Order.BigOperators.Group.List
import Mathlib.Algebra.Order.Ring.Int
import Settlement.Proofs.Exact.Runs
import Settlement.Proofs.Exact.Weights

/-!
# Pools

A pool collects the documents of one currency and one direction on one side of a pass.  What is
settled between two pools that can settle each other is the smaller of what both have left,
whichever documents meet.
-/

namespace Settlement

namespace Direction

/-- The sign of money that flows in the direction. -/
def sign : Direction → Int
  | inbound => 1
  | outbound => -1

/-- The other direction. -/
def opposite : Direction → Direction
  | inbound => outbound
  | outbound => inbound

@[simp] theorem sign_opposite (direction : Direction) :
    direction.opposite.sign = -direction.sign := by
  cases direction <;> rfl

theorem sign_ne_zero (direction : Direction) : direction.sign ≠ 0 := by
  cases direction <;> decide

end Direction

namespace Weights

/-- The selected debts of a currency and a direction, counted by magnitude. -/
def ofDebts (selects : Debt.Terms → Bool) (currency : Currency) (direction : Direction) :
    Weights where
  debt terms :=
    if selects terms = true ∧ terms.currency = currency ∧
        terms.initial.pay.sign = direction.sign then
      direction.sign
    else
      0
  fund _ := 0

/-- The funds of a currency and a direction, counted by magnitude. -/
def ofFunds (currency : Currency) (direction : Direction) : Weights where
  debt _ := 0
  fund terms :=
    if terms.currency = currency ∧ terms.initial.sign = direction.sign then
      direction.sign
    else
      0

/-- No document counts below zero. -/
structure Positive (weights : Weights) : Prop where
  debt : ∀ terms : Debt.Terms, 0 ≤ weights.debt terms * terms.initial.pay
  fund : ∀ terms : Fund.Terms, 0 ≤ weights.fund terms * terms.initial

theorem positive_ofDebts (selects : Debt.Terms → Bool) (currency : Currency)
    (direction : Direction) : (ofDebts selects currency direction).Positive where
  debt terms := by
    simp only [ofDebts]
    split_ifs with counts
    · rw [← counts.2.2, Int.sign_mul_self]
      exact Int.natCast_nonneg _
    · rw [zero_mul]
  fund terms := by
    simp only [ofDebts, zero_mul, le_refl]

theorem positive_ofFunds (currency : Currency) (direction : Direction) :
    (ofFunds currency direction).Positive where
  debt terms := by
    simp only [ofFunds, zero_mul, le_refl]
  fund terms := by
    simp only [ofFunds]
    split_ifs with counts
    · rw [← counts.2, Int.sign_mul_self]
      exact Int.natCast_nonneg _
    · rw [zero_mul]

section

variable {currency : Currency} {direction : Direction} {terms : Fund.Terms}

theorem selected_of_ofFunds (counts : (ofFunds currency direction).fund terms ≠ 0) :
    terms.currency = currency ∧ terms.initial.sign = direction.sign := by
  by_contra outside
  exact counts (if_neg outside)

theorem ofFunds_of_sign (sign_eq : terms.initial.sign = direction.sign) :
    (ofFunds currency direction).fund terms =
      if terms.currency = currency then direction.sign else 0 := by
  simp only [ofFunds, sign_eq, and_true]

theorem ofFunds_of_ne (ne : terms.initial.sign ≠ direction.sign) :
    (ofFunds currency direction).fund terms = 0 :=
  if_neg fun counts => ne counts.2

end

end Weights

/-- A part of an amount counts on the same side of zero. -/
theorem Within.counted_nonneg {amount bound factor : Int} (within : Within amount bound)
    (nonneg : 0 ≤ factor * bound) : 0 ≤ factor * amount := by
  rcases lt_trichotomy bound 0 with negative | rfl | positive
  · have factor_nonpos : factor ≤ 0 := by
      by_contra positive
      have := mul_neg_of_pos_of_neg (not_le.mp positive) negative
      omega
    apply mul_nonneg_of_nonpos_of_nonpos factor_nonpos
    unfold Within at within
    omega
  · rw [within.eq_zero, mul_zero]
  · have factor_nonneg : 0 ≤ factor := nonneg_of_mul_nonneg_left nonneg positive
    apply mul_nonneg factor_nonneg
    unfold Within at within
    omega

/-! ## Sums over two states of a book -/

/-- Two lists of one length are compared by their sums when they are place by place. -/
theorem sum_map_le_of_places {α β : Type} {before : List α} {after : List β}
    (length_eq : before.length = after.length) {left : α → Int} {right : β → Int}
    (le : ∀ (place : Nat) (given : α) (found : β), before[place]? = some given →
      after[place]? = some found → left given ≤ right found) :
    (before.map left).sum ≤ (after.map right).sum := by
  induction before generalizing after with
  | nil =>
      obtain rfl := List.length_eq_zero_iff.mp length_eq.symm
      simp
  | cons given rest ih =>
      cases after with
      | nil => cases length_eq
      | cons found others =>
          have head := le 0 given found rfl rfl
          have tail := ih (Nat.succ.inj length_eq) fun place one other one_eq other_eq =>
            le (place + 1) one other one_eq other_eq
          simp only [List.map_cons, List.sum_cons]
          omega

namespace Book

variable {policy : LeftoverPolicy} {before after : Book} {weights : Weights}

/-- A later book, in which of every debt no more has been paid than was left. -/
structure Pays (policy : LeftoverPolicy) (before after : Book) : Prop where
  sound : before.Sound policy
  later : Later policy before after
  debts : ∀ (place : Nat) (debt found : Debt), before.debts[place]? = some debt →
    after.debts[place]? = some found → debt.Pays found

theorem pays_runAll {history : History} {steps : List Step} (sound : history.book.Sound policy)
    (placed : ∀ step ∈ steps, history.book.Placed step) :
    Pays policy history.book (history.runAll policy steps).1.book where
  sound := sound
  later := History.later_runAll sound placed
  debts _ _ _ := History.runAll_pays sound placed

theorem weigh_le_later (later : Later policy before after) {debt debt' : Debt → Int}
    {fund fund' : Fund → Int}
    (debts : ∀ (place : Nat) (given found : Debt), before.debts[place]? = some given →
      after.debts[place]? = some found →
        weights.debt given.toTerms * debt given ≤ weights.debt given.toTerms * debt' found)
    (funds : ∀ (place : Nat) (given found : Fund), before.funds[place]? = some given →
      after.funds[place]? = some found →
        weights.fund given.toTerms * fund given ≤ weights.fund given.toTerms * fund' found) :
    before.weigh weights debt fund ≤ after.weigh weights debt' fund' := by
  apply add_le_add
  · apply sum_map_le_of_places later.debts.length_eq
    intro place given found given_eq found_eq
    have step := forall₂_at later.debts given_eq found_eq
    rw [step.terms_eq]
    exact debts place given found given_eq found_eq
  · apply sum_map_le_of_places later.funds.length_eq
    intro place given found given_eq found_eq
    have step := forall₂_at later.funds given_eq found_eq
    rw [step.terms_eq]
    exact funds place given found given_eq found_eq

theorem weigh_eq_later (later : Later policy before after) {debt debt' : Debt → Int}
    {fund fund' : Fund → Int}
    (debts : ∀ (place : Nat) (given found : Debt), before.debts[place]? = some given →
      after.debts[place]? = some found → weights.debt given.toTerms ≠ 0 →
        debt' found = debt given)
    (funds : ∀ (place : Nat) (given found : Fund), before.funds[place]? = some given →
      after.funds[place]? = some found → weights.fund given.toTerms ≠ 0 →
        fund' found = fund given) :
    after.weigh weights debt' fund' = before.weigh weights debt fund := by
  have debt_eq : ∀ (place : Nat) (given found : Debt), before.debts[place]? = some given →
      after.debts[place]? = some found →
        weights.debt given.toTerms * debt given = weights.debt given.toTerms * debt' found := by
    intro place given found given_eq found_eq
    by_cases counts : weights.debt given.toTerms = 0
    · rw [counts, zero_mul, zero_mul]
    · rw [debts place given found given_eq found_eq counts]
  have fund_eq : ∀ (place : Nat) (given found : Fund), before.funds[place]? = some given →
      after.funds[place]? = some found →
        weights.fund given.toTerms * fund given = weights.fund given.toTerms * fund' found := by
    intro place given found given_eq found_eq
    by_cases counts : weights.fund given.toTerms = 0
    · rw [counts, zero_mul, zero_mul]
    · rw [funds place given found given_eq found_eq counts]
  have up : before.weigh weights debt fund ≤ after.weigh weights debt' fund' :=
    weigh_le_later later (fun place given found given_eq found_eq =>
      (debt_eq place given found given_eq found_eq).le)
      fun place given found given_eq found_eq => (fund_eq place given found given_eq found_eq).le
  have down : before.weigh (-weights) debt fund ≤ after.weigh (-weights) debt' fund' := by
    apply weigh_le_later later
    · intro place given found given_eq found_eq
      rw [Weights.debt_neg, neg_mul, neg_mul, debt_eq place given found given_eq found_eq]
    · intro place given found given_eq found_eq
      rw [Weights.fund_neg, neg_mul, neg_mul, fund_eq place given found given_eq found_eq]
  rw [weigh_neg, weigh_neg] at down
  omega

/-- What has been settled and what is left together. -/
theorem settled_add_outstanding (weights : Weights) (book : Book) :
    book.settled weights + book.outstanding weights =
      book.weigh weights (fun debt => debt.allocated.pay + debt.remaining.pay)
        fun fund => fund.allocated + fund.remaining := by
  simp only [settled, outstanding, weigh, mul_add, List.sum_map_add]
  omega

theorem Pays.fund_balance (pays : Pays policy before after) {place : Nat} {given found : Fund}
    (given_eq : before.funds[place]? = some given) (found_eq : after.funds[place]? = some found) :
    found.allocated + found.remaining = given.allocated + given.remaining := by
  have step := forall₂_at pays.later.funds given_eq found_eq
  rw [step.sound.balance, (pays.sound.fund given_eq).balance, step.terms_eq]

/-- No more is settled than was left. -/
theorem Pays.settled_le (pays : Pays policy before after) (positive : weights.Positive) :
    after.settled weights ≤ before.settled weights + before.outstanding weights := by
  rw [settled_add_outstanding]
  have down : before.weigh (-weights) (fun debt => debt.allocated.pay + debt.remaining.pay)
      (fun fund => fund.allocated + fund.remaining) ≤ after.settled (-weights) := by
    apply weigh_le_later pays.later
    · intro place given found given_eq found_eq
      have within := (pays.debts place given found given_eq found_eq).paid.sub.trans
        (pays.sound.debt given_eq).remaining_within
      have nonneg := within.counted_nonneg (positive.debt given.toTerms)
      rw [Weights.debt_neg, neg_mul, neg_mul]
      rw [mul_sub, mul_sub] at nonneg
      rw [mul_add]
      omega
    · intro place given found given_eq found_eq
      have step := forall₂_at pays.later.funds given_eq found_eq
      have within := step.remaining.trans (pays.sound.fund given_eq).remaining_within
      have nonneg := within.counted_nonneg (positive.fund given.toTerms)
      rw [Weights.fund_neg, neg_mul, neg_mul, ← pays.fund_balance given_eq found_eq, mul_add]
      omega
  rw [settled, weigh_neg, weigh_neg] at down
  exact neg_le_neg_iff.mp down

/-- All documents that count have been paid in full. -/
structure UsesUp (weights : Weights) (before after : Book) : Prop where
  debts : ∀ (place : Nat) (given found : Debt), before.debts[place]? = some given →
    after.debts[place]? = some found → weights.debt given.toTerms ≠ 0 →
      found.allocated.pay = given.allocated.pay + given.remaining.pay
  funds : ∀ (place : Nat) (given found : Fund), before.funds[place]? = some given →
    after.funds[place]? = some found → weights.fund given.toTerms ≠ 0 →
      found.allocated = given.allocated + given.remaining

theorem UsesUp.settled_eq (usesUp : UsesUp weights before after)
    (later : Later policy before after) :
    after.settled weights = before.settled weights + before.outstanding weights := by
  rw [settled_add_outstanding]
  exact weigh_eq_later later usesUp.debts usesUp.funds

/-- Documents with nothing left have been paid in full, unless something of them was waived. -/
theorem Pays.usesUp (pays : Pays policy before after)
    (debts : ∀ (place : Nat) (given found : Debt), before.debts[place]? = some given →
      after.debts[place]? = some found → weights.debt given.toTerms ≠ 0 →
        found.remaining.pay = 0 ∧ found.waived = given.waived)
    (funds : ∀ (place : Nat) (given found : Fund), before.funds[place]? = some given →
      after.funds[place]? = some found → weights.fund given.toTerms ≠ 0 → found.remaining = 0) :
    UsesUp weights before after where
  debts place given found given_eq found_eq counts := by
    obtain ⟨nothing, waived⟩ := debts place given found given_eq found_eq counts
    have grown := forall₂_at pays.later.debts given_eq found_eq
    simp only [Debt.waived, grown.terms_eq] at waived
    omega
  funds place given found given_eq found_eq counts := by
    have nothing := funds place given found given_eq found_eq counts
    have balance := pays.fund_balance given_eq found_eq
    omega

/-- Two pools from which the same is settled, one of them to its end, settle the smaller of what
both had left. -/
theorem Pays.settled_min (pays : Pays policy before after) {owes pool : Weights}
    (owes_positive : owes.Positive) (pool_positive : pool.Positive)
    (even : after.settled owes - before.settled owes =
      after.settled pool - before.settled pool)
    (used : UsesUp owes before after ∨ UsesUp pool before after) :
    after.settled owes =
      before.settled owes + min (before.outstanding owes) (before.outstanding pool) := by
  have owes_le := pays.settled_le owes_positive
  have pool_le := pays.settled_le pool_positive
  rcases used with owes_used | pool_used
  · have owes_eq := owes_used.settled_eq pays.later
    omega
  · have pool_eq := pool_used.settled_eq pays.later
    omega

/-! ## What is left -/

/-- Where nothing is waived, what is settled is taken off what was left. -/
theorem Pays.outstanding_add_settled (pays : Pays policy before after)
    (kept : ∀ (place : Nat) (given found : Debt), before.debts[place]? = some given →
      after.debts[place]? = some found → weights.debt given.toTerms ≠ 0 →
        found.waived = given.waived) :
    after.settled weights + after.outstanding weights =
      before.settled weights + before.outstanding weights := by
  rw [settled_add_outstanding, settled_add_outstanding]
  apply weigh_eq_later pays.later
  · intro place given found given_eq found_eq counts
    have step := forall₂_at pays.later.debts given_eq found_eq
    have waived_eq := kept place given found given_eq found_eq counts
    simp only [Debt.waived, step.terms_eq] at waived_eq
    omega
  · intro place given found given_eq found_eq counts
    exact pays.fund_balance given_eq found_eq

theorem outstanding_eq_zero
    (debts : ∀ debt ∈ before.debts, weights.debt debt.toTerms ≠ 0 → debt.remaining.pay = 0)
    (funds : ∀ fund ∈ before.funds, weights.fund fund.toTerms ≠ 0 → fund.remaining = 0) :
    before.outstanding weights = 0 := by
  rw [outstanding, weigh, List.sum_eq_zero, List.sum_eq_zero, add_zero]
  · intro amount mem
    obtain ⟨fund, fund_mem, rfl⟩ := List.mem_map.mp mem
    by_cases counts : weights.fund fund.toTerms = 0
    · rw [counts, zero_mul]
    · rw [funds fund fund_mem counts, mul_zero]
  · intro amount mem
    obtain ⟨debt, debt_mem, rfl⟩ := List.mem_map.mp mem
    by_cases counts : weights.debt debt.toTerms = 0
    · rw [counts, zero_mul]
    · rw [debts debt debt_mem counts, mul_zero]

/-- Everything that counts is left on one side of zero, so nothing is left together only where
nothing is left of any document. -/
theorem Sound.outstanding_eq_zero_iff (sound : before.Sound policy) (positive : weights.Positive) :
    before.outstanding weights = 0 ↔
      (∀ debt ∈ before.debts, weights.debt debt.toTerms ≠ 0 → debt.remaining.pay = 0) ∧
        ∀ fund ∈ before.funds, weights.fund fund.toTerms ≠ 0 → fund.remaining = 0 := by
  refine ⟨fun nothing => ?_, fun ⟨debts, funds⟩ => outstanding_eq_zero debts funds⟩
  have debts_nonneg : ∀ amount ∈ before.debts.map fun debt =>
      weights.debt debt.toTerms * debt.remaining.pay, 0 ≤ amount := by
    intro amount mem
    obtain ⟨debt, debt_mem, rfl⟩ := List.mem_map.mp mem
    exact (sound.debts debt debt_mem).remaining_within.counted_nonneg (positive.debt _)
  have funds_nonneg : ∀ amount ∈ before.funds.map fun fund =>
      weights.fund fund.toTerms * fund.remaining, 0 ≤ amount := by
    intro amount mem
    obtain ⟨fund, fund_mem, rfl⟩ := List.mem_map.mp mem
    exact (sound.funds fund fund_mem).remaining_within.counted_nonneg (positive.fund _)
  have debts_sum := List.sum_nonneg debts_nonneg
  have funds_sum := List.sum_nonneg funds_nonneg
  rw [outstanding, weigh] at nothing
  constructor
  · intro debt mem counts
    have counted := List.mem_map_of_mem
      (f := fun debt : Debt => weights.debt debt.toTerms * debt.remaining.pay) mem
    have nonneg := debts_nonneg _ counted
    have le := List.single_le_sum debts_nonneg _ counted
    have zero : weights.debt debt.toTerms * debt.remaining.pay = 0 := by omega
    exact (mul_eq_zero.mp zero).resolve_left counts
  · intro fund mem counts
    have counted := List.mem_map_of_mem
      (f := fun fund : Fund => weights.fund fund.toTerms * fund.remaining) mem
    have nonneg := funds_nonneg _ counted
    have le := List.single_le_sum funds_nonneg _ counted
    have zero : weights.fund fund.toTerms * fund.remaining = 0 := by omega
    exact (mul_eq_zero.mp zero).resolve_left counts

end Book

end Settlement
