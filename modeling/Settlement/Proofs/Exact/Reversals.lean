import Settlement.Proofs.Exact.Exchanges

/-!
# Reversals and remainders

Reversals set what is left of the payments received against what is left of the payments made.  In
every currency they settle the smaller of the two.  The remainders that follow take discounts and
write-offs and leave everything that counts here where it is.
-/

namespace Settlement

namespace Book

variable {policy : LeftoverPolicy} {book : Book}

theorem Placed.initial_signs {inbound outbound : Nat} {received made : Fund}
    (placed : book.Placed (.reverse inbound outbound))
    (received_eq : book.funds[inbound]? = some received)
    (made_eq : book.funds[outbound]? = some made) :
    received.initial.sign = 1 ∧ made.initial.sign = -1 := by
  obtain ⟨⟨found, found_eq, positive⟩, other, other_eq, negative⟩ := placed
  obtain rfl := Option.some.inj (received_eq.symm.trans found_eq)
  obtain rfl := Option.some.inj (made_eq.symm.trans other_eq)
  exact ⟨Int.sign_eq_one_of_pos positive, Int.sign_eq_neg_one_of_neg negative⟩

/-- A reversal settles as much of the payments received as of the payments made, and counts it
below zero. -/
theorem Deals.settled_ofFunds {inbound outbound : Nat} {deal : Deal}
    (dealt : Deals policy book (.reverse inbound outbound) deal)
    (placed : book.Placed (.reverse inbound outbound)) (currency : Currency)
    (direction : Direction) :
    deal.after.settled (.ofFunds currency direction) =
      book.settled (.ofFunds currency direction) -
        if deal.entry.currency = currency then deal.entry.parts.pay else 0 := by
  cases dealt with
  | reverse received_eq made_eq received_open made_open currency_eq =>
      rename_i received made
      obtain ⟨received_sign, made_sign⟩ := Placed.initial_signs placed received_eq made_eq
      have made_counts : (Weights.ofFunds currency direction).fund made.toTerms -
          (Weights.ofFunds currency direction).fund received.toTerms =
          if made.currency = currency then -1 else 0 := by
        cases direction with
        | inbound =>
            have received_here : received.initial.sign = Direction.inbound.sign := received_sign
            rw [Weights.ofFunds_of_sign received_here,
              Weights.ofFunds_of_ne (by rw [made_sign]; decide), ← currency_eq]
            split_ifs <;> rfl
        | outbound =>
            have made_here : made.initial.sign = Direction.outbound.sign := made_sign
            rw [Weights.ofFunds_of_sign made_here,
              Weights.ofFunds_of_ne (by rw [received_sign]; decide), sub_zero]
            rfl
      rw [settled_reverse _ placed received_eq made_eq, made_counts]
      change _ = _ - if made.currency = currency then offset received made else 0
      split_ifs <;> ring

end Book

namespace History

/-- What reversals do to weighed books. -/
structure Offsets (before after : History) : Prop where
  /-- In every currency they settle the smaller of what is left in both directions. -/
  pool : ∀ (currency : Currency) (direction : Direction),
    after.book.settled (.ofFunds currency direction) =
      before.book.settled (.ofFunds currency direction) +
        min (before.book.outstanding (.ofFunds currency .inbound))
          (before.book.outstanding (.ofFunds currency .outbound))
  /-- What they settle is what they pay, below zero. -/
  gain : ∀ (currency : Currency) (direction : Direction),
    after.book.settled (.ofFunds currency direction) +
        after.paid .inboundPaymentToOutboundPayment currency =
      before.book.settled (.ofFunds currency direction) +
        before.paid .inboundPaymentToOutboundPayment currency
  /-- They pay nothing of other kinds. -/
  others : ∀ (other : CandidateKind) (currency : Currency),
    other ≠ .inboundPaymentToOutboundPayment →
      after.paid other currency = before.paid other currency
  /-- What they settle is taken off what was left. -/
  kept : ∀ weights : Weights,
    after.book.settled weights + after.book.outstanding weights =
      before.book.settled weights + before.book.outstanding weights
  /-- They leave debts alone. -/
  debts : ∀ {weights : Weights}, (∀ terms : Fund.Terms, weights.fund terms = 0) →
    after.book.outstanding weights = before.book.outstanding weights

variable {policy : LeftoverPolicy} {history : History}

theorem debts_reversals (sound : history.book.Sound policy) :
    (history.runAll policy (history.book.steps .reversals)).1.book.debts = history.book.debts := by
  apply runAll_induction sound (Book.placed_steps sound .reversals)
    (motive := fun reached => reached.book.debts = history.book.debts) rfl
  intro reached step deal mem reached_sound here dealt ih
  obtain ⟨inbound, -, outbound, -, rfl⟩ := Step.mem_reverseAll.mp mem
  cases dealt with
  | reverse received_eq made_eq received_open made_open currency_eq => exact ih

theorem gain_reversals (sound : history.book.Sound policy) (currency : Currency)
    (direction : Direction) :
    (history.runAll policy (history.book.steps .reversals)).1.book.settled
          (.ofFunds currency direction) +
        (history.runAll policy (history.book.steps .reversals)).1.paid
          .inboundPaymentToOutboundPayment currency =
      history.book.settled (.ofFunds currency direction) +
        history.paid .inboundPaymentToOutboundPayment currency := by
  apply runAll_induction sound (Book.placed_steps sound .reversals) (motive := fun reached =>
    reached.book.settled (.ofFunds currency direction) +
        reached.paid .inboundPaymentToOutboundPayment currency =
      history.book.settled (.ofFunds currency direction) +
        history.paid .inboundPaymentToOutboundPayment currency) rfl
  intro reached step deal mem reached_sound here dealt ih
  obtain ⟨inbound, -, outbound, -, rfl⟩ := Step.mem_reverseAll.mp mem
  have kind_eq : deal.entry.kind = .inboundPaymentToOutboundPayment := dealt.kind_eq
  rw [paid_record, record, dealt.settled_ofFunds here, ← ih]
  simp only [kind_eq, true_and]
  omega

/-- Of a payment received and a payment made in one currency, one is used up. -/
theorem used_reversals (sound : history.book.Sound policy)
    (ended : (history.runAll policy (history.book.steps .reversals)).2 = none)
    {place other : Nat} {received left made rest : Fund}
    (received_eq : history.book.funds[place]? = some received)
    (made_eq : history.book.funds[other]? = some made)
    (left_eq : (history.runAll policy (history.book.steps .reversals)).1.book.funds[place]? =
      some left)
    (rest_eq : (history.runAll policy (history.book.steps .reversals)).1.book.funds[other]? =
      some rest)
    (positive : 0 < received.initial) (negative : made.initial < 0)
    (currency_eq : made.currency = received.currency) :
    left.remaining = 0 ∨ rest.remaining = 0 := by
  have placed := Book.placed_steps sound .reversals
  have later := later_runAll sound placed
  have drawn := forall₂_at later.funds received_eq left_eq
  have spent := forall₂_at later.funds made_eq rest_eq
  have received_within := drawn.remaining
  have made_within := spent.remaining
  have received_bound := (sound.fund received_eq).remaining_within
  have made_bound := (sound.fund made_eq).remaining_within
  unfold Within at received_within made_within received_bound made_bound
  by_contra both_open
  rw [not_or] at both_open
  obtain ⟨left_open, rest_open⟩ := both_open
  -- Both have been open from the start, so the reversals have tried them on each other.
  have received_mem : place ∈
      places (fun fund => decide (0 < fund.remaining)) history.book.funds :=
    mem_places.mpr ⟨received, received_eq, decide_eq_true (by omega)⟩
  have made_mem : other ∈
      places (fun fund => decide (fund.remaining < 0)) history.book.funds :=
    mem_places.mpr ⟨made, made_eq, decide_eq_true (by omega)⟩
  have closed := runAll_settles sound placed ended _
    (Step.mem_reverseAll.mpr ⟨place, received_mem, other, made_mem, rfl⟩)
  apply (Book.settled_reverse_iff left_eq rest_eq).mp closed
  rw [drawn.terms_eq, spent.terms_eq]
  exact ⟨left_open, rest_open, currency_eq⟩

/-- In every currency, reversals use up all payments received or all payments made. -/
theorem usesUp_reversals (sound : history.book.Sound policy)
    (ended : (history.runAll policy (history.book.steps .reversals)).2 = none)
    (currency : Currency) :
    Book.UsesUp (.ofFunds currency .inbound) history.book
        (history.runAll policy (history.book.steps .reversals)).1.book ∨
      Book.UsesUp (.ofFunds currency .outbound) history.book
        (history.runAll policy (history.book.steps .reversals)).1.book := by
  have pays := Book.pays_runAll sound (Book.placed_steps sound .reversals)
  by_cases used : ∀ (place : Nat) (given found : Fund),
    history.book.funds[place]? = some given →
      (history.runAll policy (history.book.steps .reversals)).1.book.funds[place]? = some found →
        (Weights.ofFunds currency .inbound).fund given.toTerms ≠ 0 → found.remaining = 0
  · left
    apply pays.usesUp
    · exact fun _ _ _ _ _ counts => absurd rfl counts
    · exact used
  · right
    push Not at used
    obtain ⟨place, received, left, received_eq, left_eq, counts, still_open⟩ := used
    obtain ⟨received_currency, received_sign⟩ := Weights.selected_of_ofFunds counts
    apply pays.usesUp
    · exact fun _ _ _ _ _ counts => absurd rfl counts
    · intro other made rest made_eq rest_eq made_counts
      obtain ⟨made_currency, made_sign⟩ := Weights.selected_of_ofFunds made_counts
      have one_used := used_reversals sound ended received_eq made_eq left_eq rest_eq
        (Int.sign_eq_one_iff_pos.mp received_sign) (Int.sign_eq_neg_one_iff_neg.mp made_sign)
        (made_currency.trans received_currency.symm)
      exact one_used.resolve_left still_open

theorem kept_of_no_leftover (sound : history.book.Sound policy) {steps : List Step}
    (placed : ∀ step ∈ steps, history.book.Placed step)
    (no_leftover : ∀ place, .leftover place ∉ steps) (weights : Weights) :
    (history.runAll policy steps).1.book.settled weights +
        (history.runAll policy steps).1.book.outstanding weights =
      history.book.settled weights + history.book.outstanding weights := by
  apply (Book.pays_runAll sound placed).outstanding_add_settled
  intro place given found given_eq found_eq _
  exact runAll_waived sound placed given_eq found_eq (no_leftover place)

theorem offsets_reversals (sound : history.book.Sound policy)
    (ended : (history.runAll policy (history.book.steps .reversals)).2 = none) :
    Offsets history (history.runAll policy (history.book.steps .reversals)).1 where
  pool currency direction := by
    have inbound_gain := gain_reversals sound currency .inbound
    have outbound_gain := gain_reversals sound currency .outbound
    have pooled := (Book.pays_runAll sound (Book.placed_steps sound .reversals)).settled_min
      (Weights.positive_ofFunds currency .inbound) (Weights.positive_ofFunds currency .outbound)
      (by omega) (usesUp_reversals sound ended currency)
    cases direction <;> omega
  gain := gain_reversals sound
  others other currency ne := by
    apply runAll_paid_of_ne sound (Book.placed_steps sound .reversals)
    intro step mem
    obtain ⟨inbound, -, outbound, -, rfl⟩ := Step.mem_reverseAll.mp mem
    exact ne.symm
  kept weights := by
    apply kept_of_no_leftover sound (Book.placed_steps sound .reversals)
    intro place mem
    obtain ⟨inbound, -, outbound, -, same⟩ := Step.mem_reverseAll.mp mem
    cases same
  debts {weights} no_funds := by
    simp only [Book.outstanding, Book.weigh, debts_reversals sound, no_funds, zero_mul]
    simp

/-! ## Remainders -/

/-- Remainders pay nothing. -/
theorem settled_remainders (sound : history.book.Sound policy) (weights : Weights) :
    (history.runAll policy (history.book.steps .remainders)).1.book.settled weights =
      history.book.settled weights := by
  apply runAll_induction sound (Book.placed_steps sound .remainders)
    (motive := fun reached => reached.book.settled weights = history.book.settled weights) rfl
  intro reached step deal mem reached_sound here dealt ih
  obtain ⟨index, -, rfl⟩ := List.mem_map.mp mem
  cases dealt with
  | remainder debt_eq carries =>
      rw [record, Book.settled_charge weights _ debt_eq, mul_zero, add_zero, ih]

theorem outstanding_remainders (sound : history.book.Sound policy) (weights : Weights) :
    (history.runAll policy (history.book.steps .remainders)).1.book.outstanding weights =
      history.book.outstanding weights := by
  have settled := settled_remainders sound weights
  have kept := kept_of_no_leftover sound (Book.placed_steps sound .remainders) (by
    intro place mem
    obtain ⟨index, -, same⟩ := List.mem_map.mp mem
    cases same) weights
  omega

theorem paid_remainders (sound : history.book.Sound policy) {kind : CandidateKind}
    (two_sided : kind ≠ .invoiceDiscountOrWriteOff) (currency : Currency) :
    (history.runAll policy (history.book.steps .remainders)).1.paid kind currency =
      history.paid kind currency := by
  apply runAll_paid_of_ne sound (Book.placed_steps sound .remainders)
  intro step mem
  obtain ⟨index, -, rfl⟩ := List.mem_map.mp mem
  exact two_sided.symm

end History
end Settlement
