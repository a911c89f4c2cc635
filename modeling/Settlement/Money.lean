import Settlement.Decimal.Text
import Settlement.Fault

/-!
# Money

A signed amount in a currency.  The sign carries the direction of the money, so the smaller and
the larger of two amounts are taken by signed value.  Amounts are rounded to four places when
they are made and after every sum, difference and negation.
-/

namespace Settlement

/-- A signed amount in a currency. -/
structure Money where
  /-- The signed amount. -/
  amount : Decimal
  /-- The currency that the amount counts. -/
  currency : Currency
  deriving DecidableEq, Repr

/-- Two amounts that a caller asked to combine are in different currencies. -/
inductive MoneyError where
  /-- The currencies are named by their codes. -/
  | currencyMismatch (left right : String)
  deriving DecidableEq, Repr

namespace MoneyError

/-- The text that reports the error. -/
def message : MoneyError → String
  | currencyMismatch left right =>
      s!"Currency mismatch: cannot operate on {left} and {right}"

end MoneyError

namespace Money

/-- How many fraction digits an amount keeps. -/
def places : Nat := 4

/-- An amount rounded to the places that money keeps. -/
def of (amount : Decimal) (currency : Currency) : Money := ⟨amount.round places, currency⟩

/-- No money. -/
def zero (currency : Currency) : Money := ⟨Decimal.zero, currency⟩

/-- A count of minor units is small enough for a decimal. -/
theorem natAbs_minor_lt (units : Int64) : units.toInt.natAbs < coefficientLimit := by
  have := units.toInt_lt
  have := units.le_toInt
  unfold coefficientLimit
  omega

/-- No currency shows more fraction digits than a decimal can carry. -/
theorem decimalPlaces_le (currency : Currency) : currency.decimalPlaces ≤ 28 := by
  cases currency <;> decide

/-- The decimal for a count of minor units: a whole number where they make up whole units, else
with as many fraction digits as the currency has. -/
def minorAmount (units : Int64) (currency : Currency) : Decimal :=
  let perUnit := tenTo currency.decimalPlaces
  if units.toInt.natAbs % perUnit = 0 then
    Decimal.ofWhole (decide (units.toInt < 0)) (units.toInt.natAbs / perUnit)
      (Nat.lt_of_le_of_lt (Nat.div_le_self _ _) (natAbs_minor_lt units))
  else
    { negative := decide (units.toInt < 0)
      coefficient := units.toInt.natAbs
      scale := currency.decimalPlaces
      coefficient_lt := natAbs_minor_lt units
      scale_le := decimalPlaces_le currency }

/-- The amount for a count of minor units, such as cents. -/
def ofMinor (units : Int64) (currency : Currency) : Money :=
  of (minorAmount units currency) currency

/-- Two amounts are the same money when currency and value agree. -/
def SameValue (left right : Money) : Prop :=
  left.amount.SameValue right.amount ∧ left.currency = right.currency

instance (left right : Money) : Decidable (SameValue left right) :=
  inferInstanceAs (Decidable (_ ∧ _))

/-- Nothing is owed either way. -/
def isZero (money : Money) : Bool := money.amount.isZero

/-- The amount is above zero. -/
def isPositive (money : Money) : Bool := !money.amount.negative && !money.isZero

/-- The amount is below zero; zero never is, whatever its sign. -/
def isNegative (money : Money) : Bool := money.amount.negative && !money.isZero

/-- Minus one, zero or one, as the amount is below, at or above zero. -/
def signum (money : Money) : Int :=
  if money.isZero then 0 else if money.amount.negative then -1 else 1

/-- The amount without its sign. -/
def abs (money : Money) : Money := { money with amount := money.amount.abs }

/-- The amount with the other sign. -/
def neg (money : Money) : Money := of money.amount.neg money.currency

/-- Adds an amount in the same currency. -/
def add (left right : Money) : Except Fault Money :=
  if left.currency ≠ right.currency then
    .error (.currencyMismatch .sum left.currency right.currency)
  else
    match left.amount.sum? right.amount with
    | some amount => .ok (of amount left.currency)
    | none => .error .sumOverflow

/-- Takes off an amount in the same currency. -/
def sub (left right : Money) : Except Fault Money :=
  if left.currency ≠ right.currency then
    .error (.currencyMismatch .difference left.currency right.currency)
  else
    match left.amount.difference? right.amount with
    | some amount => .ok (of amount left.currency)
    | none => .error .differenceOverflow

/-- Runs a combination of two amounts unless their currencies differ. -/
def guarded (operation : Money → Money → Except Fault Money) (left right : Money) :
    Except Fault (Except MoneyError Money) :=
  if left.currency ≠ right.currency then
    .ok (.error (.currencyMismatch left.currency.code right.currency.code))
  else
    (operation left right).map .ok

/-- The sum, or the error that the currencies differ. -/
def checkedAdd : Money → Money → Except Fault (Except MoneyError Money) := guarded add

/-- The difference, or the error that the currencies differ. -/
def checkedSub : Money → Money → Except Fault (Except MoneyError Money) := guarded sub

/-- The smaller of two signed amounts; of equal ones the first. -/
def min (left right : Money) : Except Fault Money :=
  if left.currency ≠ right.currency then
    .error (.currencyMismatch .minimum left.currency right.currency)
  else
    .ok (if right.amount.Less left.amount then right else left)

/-- The larger of two signed amounts; of equal ones the first. -/
def max (left right : Money) : Except Fault Money :=
  if left.currency ≠ right.currency then
    .error (.currencyMismatch .maximum left.currency right.currency)
  else
    .ok (if left.amount.Less right.amount then right else left)

/-- The symbol and the amount with the places of its currency. -/
def display (money : Money) : String :=
  s!"{money.currency.symbol} {money.amount.toFixed money.currency.decimalPlaces}"

/-- A sum exists in one currency, where the decimals have it, and is rounded. -/
theorem add_eq_ok {left right result : Money} :
    left.add right = .ok result ↔
      left.currency = right.currency ∧
        ∃ sum, left.amount.sum? right.amount = some sum ∧ of sum left.currency = result := by
  by_cases same : left.currency = right.currency
  · cases found : left.amount.sum? right.amount <;> simp [add, same, found]
  · simp [add, same]

/-- A difference exists in one currency, where the decimals have it, and is rounded. -/
theorem sub_eq_ok {left right result : Money} :
    left.sub right = .ok result ↔
      left.currency = right.currency ∧
        ∃ difference, left.amount.difference? right.amount = some difference ∧
          of difference left.currency = result := by
  by_cases same : left.currency = right.currency
  · cases found : left.amount.difference? right.amount <;> simp [sub, same, found]
  · simp [sub, same]

/-- The checked forms of an operation give what the operation gives. -/
theorem guarded_eq_ok {operation : Money → Money → Except Fault Money} {left right result : Money} :
    guarded operation left right = .ok (.ok result) ↔
      left.currency = right.currency ∧ operation left right = .ok result := by
  by_cases same : left.currency = right.currency
  · cases found : operation left right <;> simp [guarded, same, found, Except.map]
  · simp [guarded, same]

/-- The smaller of two amounts is one of them. -/
theorem min_eq_ok {left right result : Money} (found : left.min right = .ok result) :
    left.currency = right.currency ∧ (result = left ∨ result = right) := by
  unfold min at found
  split at found
  · cases found
  · rename_i same
    cases found
    refine ⟨Decidable.not_not.mp same, ?_⟩
    split
    · exact .inr rfl
    · exact .inl rfl

/-- The larger of two amounts is one of them. -/
theorem max_eq_ok {left right result : Money} (found : left.max right = .ok result) :
    left.currency = right.currency ∧ (result = left ∨ result = right) := by
  unfold max at found
  split at found
  · cases found
  · rename_i same
    cases found
    refine ⟨Decidable.not_not.mp same, ?_⟩
    split
    · exact .inr rfl
    · exact .inl rfl

@[simp]
theorem currency_of (amount : Decimal) (currency : Currency) :
    (of amount currency).currency = currency := rfl

@[simp]
theorem currency_neg (money : Money) : money.neg.currency = money.currency := rfl

@[simp]
theorem currency_zero (currency : Currency) : (zero currency).currency = currency := rfl

end Money
end Settlement
