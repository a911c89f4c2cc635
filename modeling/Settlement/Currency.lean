import Settlement.Word

/-!
# Currencies

The currencies that amounts are kept in, with the codes of ISO 4217.
-/

namespace Settlement

/-- A currency. -/
inductive Currency where
  | usd | eur | gbp | jpy | chf | inr | aud | cad | sgd | hkd
  deriving DecidableEq, Repr

namespace Currency

/-- The three letters of ISO 4217. -/
def code : Currency → String
  | usd => "USD"
  | eur => "EUR"
  | gbp => "GBP"
  | jpy => "JPY"
  | chf => "CHF"
  | inr => "INR"
  | aud => "AUD"
  | cad => "CAD"
  | sgd => "SGD"
  | hkd => "HKD"

/-- The sign in front of an amount; a currency without one shows its code. -/
def symbol : Currency → String
  | usd => "$"
  | eur => "€"
  | gbp => "£"
  | jpy => "¥"
  | chf => "CHF"
  | inr => "₹"
  | aud => "A$"
  | cad => "C$"
  | sgd => "S$"
  | hkd => "HK$"

/-- How many fraction digits an amount shows: the yen has no minor unit. -/
def decimalPlaces : Currency → Nat
  | jpy => 0
  | _ => 2

/-- A currency is written as its code. -/
instance : Worded Currency where
  all := [usd, eur, gbp, jpy, chf, inr, aud, cad, sgd, hkd]
  word := code
  mem_all := by intro currency; cases currency <;> decide
  word_injective := by intro left right; cases left <;> cases right <;> decide

end Currency
end Settlement
