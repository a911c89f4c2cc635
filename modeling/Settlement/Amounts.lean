import Settlement.Money

/-!
# Amounts of an allocation

What one allocation applies to a document: the part that is paid, the part granted as discount
and the part written off.  The combinations work part by part, in this order, so of two faults
the first part's is reported.
-/

namespace Settlement

/-- A pay amount with the discount and write-off that go with it. -/
structure Amounts where
  /-- What is paid. -/
  pay : Money
  /-- What is granted as discount. -/
  discount : Money
  /-- What is written off. -/
  writeOff : Money
  deriving DecidableEq, Repr

namespace Amounts

/-- Three parts in one currency. -/
def of (pay discount writeOff : Money) : Except MoneyError Amounts :=
  if pay.currency ≠ discount.currency then
    .error (.currencyMismatch pay.currency.code discount.currency.code)
  else if pay.currency ≠ writeOff.currency then
    .error (.currencyMismatch pay.currency.code writeOff.currency.code)
  else
    .ok ⟨pay, discount, writeOff⟩

/-- Nothing in any part. -/
def zero (currency : Currency) : Amounts :=
  ⟨Money.zero currency, Money.zero currency, Money.zero currency⟩

/-- A pay amount alone. -/
def ofPay (pay : Money) : Amounts := { zero pay.currency with pay }

/-- The currency of the pay amount stands for that of all parts. -/
def currency (amounts : Amounts) : Currency := amounts.pay.currency

/-- Part by part the same money. -/
def SameValue (left right : Amounts) : Prop :=
  left.pay.SameValue right.pay ∧ left.discount.SameValue right.discount ∧
    left.writeOff.SameValue right.writeOff

instance (left right : Amounts) : Decidable (SameValue left right) :=
  inferInstanceAs (Decidable (_ ∧ _ ∧ _))

/-- Nothing in any part. -/
def isZero (amounts : Amounts) : Bool :=
  amounts.pay.isZero && amounts.discount.isZero && amounts.writeOff.isZero

/-- The three parts together. -/
def total (amounts : Amounts) : Except Fault Money := do
  (← amounts.pay.add amounts.discount).add amounts.writeOff

/-- Combines two amounts part by part. -/
def combine (operation : Money → Money → Except Fault Money) (left right : Amounts) :
    Except Fault Amounts := do
  let pay ← operation left.pay right.pay
  let discount ← operation left.discount right.discount
  let writeOff ← operation left.writeOff right.writeOff
  return ⟨pay, discount, writeOff⟩

/-- The sum, part by part. -/
def add : Amounts → Amounts → Except Fault Amounts := combine Money.add

/-- The difference, part by part. -/
def sub : Amounts → Amounts → Except Fault Amounts := combine Money.sub

/-- All parts with the other sign. -/
def neg (amounts : Amounts) : Amounts :=
  ⟨amounts.pay.neg, amounts.discount.neg, amounts.writeOff.neg⟩

/-- Another pay amount in the same currency. -/
def withPay (amounts : Amounts) (pay : Money) : Except Fault Amounts :=
  if pay.currency = amounts.currency then
    .ok { amounts with pay }
  else
    .error (.currencyMismatch .payReplacement pay.currency amounts.currency)

/-- Nothing to pay; discount and write-off stay. -/
def withZeroPay (amounts : Amounts) : Amounts :=
  { amounts with pay := Money.zero amounts.currency }

/-- The pay amount becomes discount. -/
def payToDiscount (amounts : Amounts) : Except Fault Amounts := do
  let discount ← amounts.discount.add amounts.pay
  return { amounts.withZeroPay with discount }

/-- The pay amount is written off. -/
def payToWriteOff (amounts : Amounts) : Except Fault Amounts := do
  let writeOff ← amounts.writeOff.add amounts.pay
  return { amounts.withZeroPay with writeOff }

/-- The parts in one line. -/
def display (amounts : Amounts) : String :=
  "pay=" ++ amounts.pay.display ++ ", discount=" ++ amounts.discount.display ++
    ", write-off=" ++ amounts.writeOff.display

@[simp]
theorem currency_ofPay (pay : Money) : (ofPay pay).currency = pay.currency := rfl

@[simp]
theorem currency_zero (currency : Currency) : (zero currency).currency = currency := rfl

@[simp]
theorem currency_withZeroPay (amounts : Amounts) :
    amounts.withZeroPay.currency = amounts.currency := rfl

end Amounts
end Settlement
