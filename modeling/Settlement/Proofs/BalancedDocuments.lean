import Settlement.Proofs.Balanced.Payables
import Settlement.Proofs.Balanced.Payments

/-!
# Balanced documents

Payables and payments that have just been drawn up stay in balance under any history of changes,
of any length, order and sign, as long as what is recorded is small together.
-/

namespace Settlement

/-- Every fresh document is in balance after each change of its history, a projection counts from
the balance and is what recording leaves open, and a change in another currency is refused without
a trace. -/
theorem documents_stay_balanced :
    (∀ (payable : Payable) (changes : List Payable.Change) (amounts : Amounts),
      payable.HasRoom changes amounts →
        (∀ taken, taken <+: changes → payable.Consistent amounts (payable.changed taken)) ∧
        ∀ taken change, taken ++ [change] <+: changes →
          change.Obeys (payable.changed taken)) ∧
    (∀ (payment : Payment) (amounts : List Money) (amount : Money),
      payment.HasRoom amounts amount →
        (∀ taken, taken <+: amounts → payment.Consistent amount (payment.recorded taken)) ∧
        ∀ taken next, taken ++ [next] <+: amounts →
          (payment.recorded taken).Obeys next) := by
  refine ⟨fun payable changes amounts room => ⟨?_, ?_⟩,
    fun payment amounts amount room => ⟨?_, ?_⟩⟩
  · exact fun taken begun => room.consistent begun
  · exact fun taken change begun => room.obeys begun
  · exact fun taken begun => room.consistent begun
  · exact fun taken next begun => room.obeys begun

namespace Samples

/-- A history that pays an invoice past its amount, is refused amounts with a discount in another
currency, moves what is left, takes some back and writes off the rest. -/
def changes : List Payable.Change :=
  [.allocate (minorAmounts .usd 15000 200 0), .allocate (minorAmounts .eur 100 100 0), .toDiscount,
    .allocate (minorAmounts .usd (-2500) 0 (-50)), .toWriteOff]

/-- A history that uses a payment past its amount, is refused an amount in another currency and
takes some back. -/
def uses : List Money := [.ofMinor 7000 .usd, .ofMinor 100 .eur, .ofMinor (-1250) .usd]

theorem invoice_hasRoom :
    (invoice 1 .sales false 10025 200 100).HasRoom changes (minorAmounts .usd 4000 0 50) where
  fresh := invoice_fresh (by decide +kernel)
  changes_grid := by
    simp only [changes, List.forall_mem_cons, List.not_mem_nil, false_imp_iff, implies_true,
      and_true]
    exact ⟨minorAmounts_onGrid .., minorAmounts_onGrid .., trivial, minorAmounts_onGrid ..,
      trivial⟩
  amounts_currency := ⟨rfl, rfl, rfl⟩
  amounts_grid := minorAmounts_onGrid ..
  small := by decide +kernel

theorem payment_hasRoom :
    (payment 5 .inbound 6075).HasRoom uses (.ofMinor (-300) .usd) where
  fresh := payment_fresh (by decide) (by decide +kernel)
  amounts_grid := by
    simp only [uses, List.forall_mem_cons, List.not_mem_nil, false_imp_iff, implies_true,
      and_true]
    exact ⟨Money.onGrid_ofMinor .., Money.onGrid_ofMinor .., Money.onGrid_ofMinor ..⟩
  amount_exact := ⟨rfl, Money.onGrid_ofMinor ..⟩
  small := by decide +kernel

/-- The samples are in balance at the end of histories that go past zero and try to leave their
currency, and the attempts to leave it are refused. -/
theorem samples_stay_balanced :
    (invoice 1 .sales false 10025 200 100).HasRoom changes (minorAmounts .usd 4000 0 50) ∧
      (payment 5 .inbound 6075).HasRoom uses (.ofMinor (-300) .usd) ∧
      (invoice 1 .sales false 10025 200 100).Consistent (minorAmounts .usd 4000 0 50)
        ((invoice 1 .sales false 10025 200 100).changed changes) ∧
      ¬(Payable.Change.allocate (minorAmounts .eur 100 100 0)).UsesOnly .usd ∧
      (Payable.Change.allocate (minorAmounts .eur 100 100 0)).Obeys
        ((invoice 1 .sales false 10025 200 100).changed
          [.allocate (minorAmounts .usd 15000 200 0)]) ∧
      (payment 5 .inbound 6075).Consistent (.ofMinor (-300) .usd)
        ((payment 5 .inbound 6075).recorded uses) ∧
      ((payment 5 .inbound 6075).recorded [.ofMinor 7000 .usd]).Obeys (.ofMinor 100 .eur) := by
  obtain ⟨payables, payments⟩ := documents_stay_balanced
  obtain ⟨invoice_consistent, invoice_obeys⟩ := payables _ _ _ invoice_hasRoom
  obtain ⟨payment_consistent, payment_obeys⟩ := payments _ _ _ payment_hasRoom
  refine ⟨invoice_hasRoom, payment_hasRoom, invoice_consistent _ List.prefix_rfl, ?_,
    invoice_obeys _ _ ⟨_, rfl⟩, payment_consistent _ List.prefix_rfl,
    payment_obeys _ _ ⟨_, rfl⟩⟩
  intro single
  cases single.discount

end Samples
end Settlement
