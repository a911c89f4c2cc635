import Settlement.Proofs.Exact.Exchanges

/-!
# Groups of documents

The passes tell four groups of debts apart: sales invoices, prepay orders on the sales side,
payables on the purchase side and credit memos.  For each pass these are its pools, and the groups
that move alike in each of its deals.
-/

namespace Settlement

namespace Debt.Terms

/-- An invoice, and no credit memo. -/
def isInvoice (terms : Debt.Terms) : Bool := !terms.creditMemo && terms.kind == .invoice

/-- An invoice of one side of the trade. -/
def isInvoiceOf (side : TradeSide) (terms : Debt.Terms) : Bool :=
  terms.isInvoice && terms.side == side

/-- A prepay order on the sales side. -/
def isOrder (terms : Debt.Terms) : Bool :=
  !terms.creditMemo && terms.side == .sales && terms.kind == .prepayOrder

/-- A payable of the purchase side that is no credit memo. -/
def isBill (terms : Debt.Terms) : Bool := !terms.creditMemo && terms.side == .purchase

/-- A credit memo of one side of the trade. -/
def isMemoOf (side : TradeSide) (terms : Debt.Terms) : Bool :=
  terms.creditMemo && terms.side == side

end Debt.Terms

namespace Weights

@[ext]
theorem ext {left right : Weights} (debt : ∀ terms, left.debt terms = right.debt terms)
    (fund : ∀ terms, left.fund terms = right.fund terms) : left = right := by
  cases left
  cases right
  rw [mk.injEq]
  exact ⟨funext debt, funext fund⟩

variable {selects other : Debt.Terms → Bool} {currency : Currency} {direction : Direction}
  {terms terms' : Debt.Terms}

theorem ofDebts_of_not (unselected : selects terms = false) :
    (ofDebts selects currency direction).debt terms = 0 := by
  apply if_neg
  rintro ⟨selected, -⟩
  rw [unselected] at selected
  cases selected

theorem selected_of_ofDebts (counts : (ofDebts selects currency direction).debt terms ≠ 0) :
    selects terms = true ∧ terms.currency = currency ∧
      terms.initial.pay.sign = direction.sign := by
  by_contra outside
  exact counts (if_neg outside)

theorem ofDebts_congr (same : selects terms = other terms) :
    (ofDebts selects currency direction).debt terms =
      (ofDebts other currency direction).debt terms := by
  simp only [ofDebts, same]

/-- Terms with the opposite sign count oppositely in the opposite direction. -/
theorem ofDebts_opposite (same : selects terms' = other terms)
    (currency_eq : terms'.currency = terms.currency)
    (sign_eq : terms'.initial.pay.sign = -terms.initial.pay.sign) :
    (ofDebts selects currency direction.opposite).debt terms' =
      -(ofDebts other currency direction).debt terms := by
  simp only [ofDebts, same, currency_eq, sign_eq, Direction.sign_opposite, neg_inj]
  split_ifs <;> simp

theorem sign_eq_or {amount : Int} (signed : amount.sign ≠ 0) :
    amount.sign = 1 ∨ amount.sign = -1 := by
  rcases lt_trichotomy amount 0 with negative | nothing | positive
  · exact .inr (Int.sign_eq_neg_one_of_neg negative)
  · rw [nothing] at signed
    exact absurd rfl signed
  · exact .inl (Int.sign_eq_one_of_pos positive)

/-- Selected terms count once in both directions together. -/
theorem ofDebts_both (selected : selects terms = true) (signed : terms.initial.pay.sign ≠ 0) :
    (ofDebts selects currency .inbound).debt terms -
        (ofDebts selects currency .outbound).debt terms =
      if terms.currency = currency then 1 else 0 := by
  simp only [ofDebts, selected, Direction.sign, true_and]
  rcases sign_eq_or signed with positive | negative
  · by_cases here : terms.currency = currency <;> simp [here, positive]
  · by_cases here : terms.currency = currency <;> simp [here, negative]

/-- A group that consists of two others counts as both of them. -/
theorem ofDebts_split {first second : Debt.Terms → Bool}
    (split : ∀ terms, selects terms = (first terms || second terms))
    (apart : ∀ terms, first terms = true → second terms = false) (currency : Currency)
    (direction : Direction) :
    ofDebts selects currency direction =
      ofDebts first currency direction + ofDebts second currency direction := by
  ext terms
  · rw [debt_add]
    cases first_eq : first terms with
    | true =>
        rw [ofDebts_of_not (apart terms first_eq), add_zero]
        exact ofDebts_congr (by rw [split, first_eq, Bool.true_or])
    | false =>
        rw [ofDebts_of_not first_eq, zero_add]
        exact ofDebts_congr (by rw [split, first_eq, Bool.false_or])
  · rfl

theorem neg_iff_of_sign_eq {left right : Int} (same : left.sign = right.sign) :
    left < 0 ↔ right < 0 := by
  rw [← Int.sign_eq_neg_one_iff_neg, same, Int.sign_eq_neg_one_iff_neg]

end Weights

/-! ## Debts that settle debts -/

/-- The two debts can meet in passes of the kind, the second as a payment. -/
def CandidateKind.Opposes (kind : CandidateKind) (debt other : Debt.Terms) : Prop :=
  match kind with
  | .invoiceToCreditMemo =>
      debt.creditMemo = false ∧ debt.kind = .invoice ∧ other.creditMemo = true ∧
        other.side = debt.side
  | .salesInvoiceToPurchaseInvoice =>
      debt.creditMemo = false ∧ debt.kind = .invoice ∧ debt.side = .sales ∧
        other.creditMemo = false ∧ other.side = .purchase
  | _ => False

namespace Weights

variable {kind : CandidateKind} {currency : Currency} {direction : Direction}

/-- What pairings of debts add to a weighed number is read off the two sides. -/
theorem gains_of_opposed {weights : Weights} {times : Int} (debts : kind ≠ .invoiceToPayment)
    (deal : ∀ debt other : Debt.Terms, kind.Opposes debt other →
      other.currency = debt.currency → other.initial.pay.sign = -debt.initial.pay.sign →
        debt.initial.pay.sign ≠ 0 →
          weights.debt debt - weights.debt other =
            if debt.currency = currency then times else 0) :
    weights.Gains kind currency times := by
  intro debt source settled used can same signed
  cases source with
  | fund fund => cases kind <;> simp_all [CandidateKind.paysWith]
  | creditMemo memo =>
      rw [source, ← sub_eq_add_neg]
      rw [Source.initial, Int.sign_neg] at same
      cases kind with
      | invoiceToCreditMemo =>
          obtain ⟨kind_eq, side_eq, currency_eq⟩ := can
          have plain : debt.creditMemo = false := by
            simpa [CandidateKind.settles] using settled
          exact deal debt.toTerms memo.toTerms ⟨plain, kind_eq, used, side_eq.symm⟩
            currency_eq.symm (by rw [same, neg_neg]) signed
      | _ => cases used
  | purchaseInvoice bill =>
      rw [source, ← sub_eq_add_neg]
      rw [Source.initial, Int.sign_neg] at same
      cases kind with
      | salesInvoiceToPurchaseInvoice =>
          obtain ⟨kind_eq, side_eq, currency_eq⟩ := can
          have plain : debt.creditMemo = false := by
            simp only [CandidateKind.settles, Bool.and_eq_true, Bool.not_eq_true'] at settled
            exact settled.1
          simp only [CandidateKind.paysWith, Bool.and_eq_true, Bool.not_eq_true'] at used
          have purchase : bill.side = .purchase := by
            cases side : bill.side with
            | sales => simp [side, TradeSide.isPurchase] at used
            | purchase => rfl
          exact deal debt.toTerms bill.toTerms ⟨plain, kind_eq, side_eq, used.1, purchase⟩
            currency_eq.symm (by rw [same, neg_neg]) signed
      | _ => cases used

/-- Debts and their opponents in the opposite direction gain alike. -/
theorem even_of_opposed {payee payer : Debt.Terms → Bool} (debts : kind ≠ .invoiceToPayment)
    (meet : ∀ debt other, kind.Opposes debt other →
      payer debt = false ∧ payee other = false ∧ payer other = payee debt)
    (other : Currency) :
    (ofDebts payee currency direction + -ofDebts payer currency direction.opposite).Gains
      kind other 0 := by
  apply gains_of_opposed debts
  intro debt opponent opposes currency_eq sign_eq signed
  obtain ⟨no_payer, no_payee, same⟩ := meet debt opponent opposes
  rw [debt_add, debt_add, debt_neg, debt_neg, ofDebts_of_not no_payer, ofDebts_of_not no_payee,
    ofDebts_opposite same currency_eq sign_eq]
  split_ifs <;> omega

/-- Groups that take part in the same pairings gain alike. -/
theorem even_of_same {first second : Debt.Terms → Bool} (debts : kind ≠ .invoiceToPayment)
    (meet : ∀ debt other, kind.Opposes debt other →
      first debt = second debt ∧ first other = second other)
    (other : Currency) :
    (ofDebts first currency direction + -ofDebts second currency direction).Gains
      kind other 0 := by
  apply gains_of_opposed debts
  intro debt opponent opposes currency_eq sign_eq signed
  obtain ⟨debt_same, other_same⟩ := meet debt opponent opposes
  rw [debt_add, debt_add, debt_neg, debt_neg, ofDebts_congr debt_same, ofDebts_congr other_same]
  split_ifs <;> omega

/-- A group that takes no part gains nothing. -/
theorem idle_of_opposed {selects : Debt.Terms → Bool} (debts : kind ≠ .invoiceToPayment)
    (meet : ∀ debt other, kind.Opposes debt other →
      selects debt = false ∧ selects other = false)
    (other : Currency) : (ofDebts selects currency direction).Gains kind other 0 := by
  apply gains_of_opposed debts
  intro debt opponent opposes currency_eq sign_eq signed
  obtain ⟨no_debt, no_other⟩ := meet debt opponent opposes
  rw [ofDebts_of_not no_debt, ofDebts_of_not no_other, sub_self, ite_self]

/-- Funds take no part where debts settle debts. -/
theorem idle_ofFunds (debts : kind ≠ .invoiceToPayment) (other : Currency) :
    (ofFunds currency direction).Gains kind other 0 := by
  apply gains_of_opposed debts
  intro debt opponent opposes currency_eq sign_eq signed
  exact (ite_self 0).symm

/-- A group whose debts are settled in every pairing gains what is paid. -/
theorem paid_of_opposed {payee : Debt.Terms → Bool} (debts : kind ≠ .invoiceToPayment)
    (meet : ∀ debt other, kind.Opposes debt other → payee debt = true ∧ payee other = false)
    (currency : Currency) :
    (ofDebts payee currency .inbound + -ofDebts payee currency .outbound).Gains
      kind currency 1 := by
  apply gains_of_opposed debts
  intro debt opponent opposes currency_eq sign_eq signed
  obtain ⟨selected, no_other⟩ := meet debt opponent opposes
  rw [debt_add, debt_add, debt_neg, debt_neg, ofDebts_of_not no_other, ofDebts_of_not no_other,
    neg_zero, add_zero, sub_zero, ← sub_eq_add_neg]
  exact ofDebts_both selected signed

/-- Debts that count in opposite directions started on opposite sides of zero. -/
theorem opposed_of_ofDebts {payee payer : Debt.Terms → Bool} {debt other : Debt.Terms}
    (counts : (ofDebts payee currency direction).debt debt ≠ 0)
    (drawn : -(ofDebts payer currency direction.opposite).debt other ≠ 0) :
    payee debt = true ∧ payer other = true ∧ debt.currency = other.currency ∧
      (debt.initial.pay < 0 ↔ -other.initial.pay < 0) := by
  obtain ⟨owed, currency_eq, sign_eq⟩ := selected_of_ofDebts counts
  obtain ⟨paying, other_currency, other_sign⟩ := selected_of_ofDebts (neg_ne_zero.mp drawn)
  refine ⟨owed, paying, currency_eq.trans other_currency.symm, neg_iff_of_sign_eq ?_⟩
  rw [Int.sign_neg, other_sign, sign_eq, Direction.sign_opposite, neg_neg]

/-- Two groups that meet only each other, and always do, are pools. -/
theorem pool_of_opposed {payee payer : Debt.Terms → Bool} (debts : kind ≠ .invoiceToPayment)
    (settles : ∀ terms, payee terms = true → kind.settles terms = true)
    (pays : ∀ debt : Debt, payer debt.toTerms = true →
      kind.paysWith (.creditMemo debt) = true ∨ kind.paysWith (.purchaseInvoice debt) = true)
    (opposes : ∀ debt other, payee debt = true → payer other = true → kind.Opposes debt other)
    (meet : ∀ debt other, kind.Opposes debt other →
      payer debt = false ∧ payee other = false ∧ payer other = payee debt)
    (currency : Currency) (direction : Direction) :
    Pool kind (ofDebts payee currency direction)
      (ofDebts payer currency direction.opposite) where
  owes_positive := positive_ofDebts _ _ _
  pool_positive := positive_ofDebts _ _ _
  owes_debt terms counts := settles terms (selected_of_ofDebts counts).1
  owes_fund terms := rfl
  pool_debt debt counts := pays debt (selected_of_ofDebts counts).1
  pool_fund fund counts := absurd rfl counts
  fits debt source used counts drawn := by
    cases source with
    | fund fund => exact absurd rfl drawn
    | creditMemo memo =>
        obtain ⟨owed, paying, currency_eq, same⟩ := opposed_of_ofDebts counts drawn
        have opposed := opposes debt.toTerms memo.toTerms owed paying
        refine ⟨?_, same⟩
        cases kind with
        | invoiceToCreditMemo => exact ⟨opposed.2.1, opposed.2.2.2.symm, currency_eq⟩
        | _ => cases used
    | purchaseInvoice bill =>
        obtain ⟨owed, paying, currency_eq, same⟩ := opposed_of_ofDebts counts drawn
        have opposed := opposes debt.toTerms bill.toTerms owed paying
        refine ⟨?_, same⟩
        cases kind with
        | salesInvoiceToPurchaseInvoice => exact ⟨opposed.2.1, opposed.2.2.1, currency_eq⟩
        | _ => cases used
  even := even_of_opposed debts meet

/-- Invoices of one side of the trade meet its credit memos. -/
theorem pool_creditMemos (side : TradeSide) (currency : Currency) (direction : Direction) :
    Pool .invoiceToCreditMemo (ofDebts (Debt.Terms.isInvoiceOf side) currency direction)
      (ofDebts (Debt.Terms.isMemoOf side) currency direction.opposite) := by
  apply pool_of_opposed
  · decide
  · intro terms owed
    simp only [Debt.Terms.isInvoiceOf, Debt.Terms.isInvoice, Bool.and_eq_true] at owed
    exact owed.1.1
  · intro debt paying
    simp only [Debt.Terms.isMemoOf, Bool.and_eq_true] at paying
    exact .inl paying.1
  · intro debt memo owed paying
    simp only [Debt.Terms.isInvoiceOf, Debt.Terms.isInvoice, Debt.Terms.isMemoOf,
      Bool.and_eq_true, Bool.not_eq_true', beq_iff_eq] at owed paying
    exact ⟨owed.1.1, owed.1.2, paying.1, paying.2.trans owed.2.symm⟩
  · rintro debt memo ⟨plain, kind_eq, credit, side_eq⟩
    simp [Debt.Terms.isInvoiceOf, Debt.Terms.isInvoice, Debt.Terms.isMemoOf, plain, kind_eq,
      credit, side_eq]

/-- Sales invoices meet the payables of the purchase side. -/
theorem pool_compensation (currency : Currency) (direction : Direction) :
    Pool .salesInvoiceToPurchaseInvoice
      (ofDebts (Debt.Terms.isInvoiceOf .sales) currency direction)
      (ofDebts Debt.Terms.isBill currency direction.opposite) := by
  apply pool_of_opposed
  · decide
  · intro terms owed
    simp only [Debt.Terms.isInvoiceOf, Debt.Terms.isInvoice, Bool.and_eq_true, beq_iff_eq] at owed
    simp only [CandidateKind.settles, owed.1.1, owed.2, TradeSide.isSales, Bool.and_self]
  · intro debt paying
    simp only [Debt.Terms.isBill, Bool.and_eq_true, beq_iff_eq] at paying
    right
    simp only [CandidateKind.paysWith, paying.1, paying.2, TradeSide.isPurchase, Bool.and_self]
  · intro debt bill owed paying
    simp only [Debt.Terms.isInvoiceOf, Debt.Terms.isInvoice, Debt.Terms.isBill,
      Bool.and_eq_true, Bool.not_eq_true', beq_iff_eq] at owed paying
    exact ⟨owed.1.1, owed.1.2, owed.2, paying.1, paying.2⟩
  · rintro debt bill ⟨plain, kind_eq, sales, bill_plain, purchase⟩
    simp [Debt.Terms.isInvoiceOf, Debt.Terms.isInvoice, Debt.Terms.isBill, plain, kind_eq, sales,
      bill_plain, purchase]

/-! ## Payments -/

/-- All debts meet the funds. -/
theorem pool_payments (currency : Currency) (direction : Direction) :
    Pool .invoiceToPayment (ofDebts (fun _ => true) currency direction)
      (ofFunds currency direction) where
  owes_positive := positive_ofDebts _ _ _
  pool_positive := positive_ofFunds _ _
  owes_debt terms counts := rfl
  owes_fund terms := rfl
  pool_debt debt counts := absurd rfl counts
  pool_fund fund counts := rfl
  fits debt source used counts drawn := by
    obtain ⟨-, currency_eq, sign_eq⟩ := selected_of_ofDebts counts
    cases source with
    | fund fund =>
        obtain ⟨fund_currency, fund_sign⟩ := selected_of_ofFunds drawn
        exact ⟨currency_eq.trans fund_currency.symm,
          neg_iff_of_sign_eq (sign_eq.trans fund_sign.symm)⟩
    | creditMemo memo => cases used
    | purchaseInvoice bill => cases used
  even other := by
    intro debt source settled used can same signed
    cases source with
    | fund fund =>
        have currency_eq : debt.currency = fund.currency := can
        simp only [debt_add, debt_neg, source, fund_add, fund_neg, ofDebts, ofFunds, true_and,
          currency_eq, same, Source.initial]
        split_ifs <;> omega
    | creditMemo memo => cases used
    | purchaseInvoice bill => cases used

/-- Payments add to all debts what they pay. -/
theorem paid_payments (currency : Currency) :
    (ofDebts (fun _ => true) currency .inbound + -ofDebts (fun _ => true) currency .outbound).Gains
      .invoiceToPayment currency 1 := by
  intro debt source settled used can same signed
  cases source with
  | fund fund =>
      rw [debt_add, debt_neg, ← sub_eq_add_neg, ofDebts_both rfl signed]
      exact add_zero _
  | creditMemo memo => cases used
  | purchaseInvoice bill => cases used

end Weights
end Settlement
