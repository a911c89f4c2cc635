import Settlement.Currency

/-!
# Faults

What cuts an operation on amounts or documents short although its caller should have excluded
it: amounts of two currencies meet, a sum outgrows the decimals, an index points past the end of
a list.  A fault leaves its object as the assignments before it left it.
-/

namespace Settlement

/-- The operations that need amounts of one currency. -/
inductive MoneyOperation where
  | minimum | maximum | sum | difference | payReplacement
  deriving DecidableEq, Repr

/-- Why an operation was cut short. -/
inductive Fault where
  /-- Two currencies met in an operation. -/
  | currencyMismatch (operation : MoneyOperation) (left right : Currency)
  /-- A sum does not fit the decimals. -/
  | sumOverflow
  /-- A difference does not fit the decimals. -/
  | differenceOverflow
  /-- An index points past the end of a list. -/
  | indexOutOfBounds (length index : Nat)
  deriving DecidableEq, Repr

namespace Fault

/-- The text that reports a fault. -/
def message : Fault → String
  | currencyMismatch .minimum left right =>
      s!"Currency mismatch in Money::min: {left.code} vs {right.code}"
  | currencyMismatch .maximum left right =>
      s!"Currency mismatch in Money::max: {left.code} vs {right.code}"
  | currencyMismatch .sum left right =>
      s!"Currency mismatch in Money::add: CurrencyMismatch(\"{left.code}\", \"{right.code}\")"
  | currencyMismatch .difference left right =>
      s!"Currency mismatch in Money::sub: CurrencyMismatch(\"{left.code}\", \"{right.code}\")"
  | currencyMismatch .payReplacement left right =>
      s!"Currency mismatch in AllocationAmounts::with_pay_amt: {left.code} vs {right.code}"
  | sumOverflow => "Addition overflowed"
  | differenceOverflow => "Subtraction overflowed"
  | indexOutOfBounds length index =>
      s!"index out of bounds: the len is {length} but the index is {index}"

end Fault
end Settlement
