import Settlement.Json.Values
import Settlement.Payable.Draft
import Settlement.Proofs.Currencies.Clashes

/-!
# Currencies of drafted payables

Completing a draft compares the open amount with the pay amount only.  Amounts that are put together
by the library are in one currency, and the total of others is no amount, so a payable can only mix
currencies where its amounts were read from JSON and its open amount was given.  A payable in one
currency stays so, and whatever is asked of it in that currency afterwards, currencies never clash;
of a mixed one neither the total nor any recording comes to its end.
-/

namespace Settlement

/-! ## How amounts are obtained -/

namespace Amounts

variable {amounts left right : Amounts}

/-- Amounts that are put together by the library or, where that is allowed, read from JSON. -/
inductive Obtained (reads : Prop) : Amounts → Prop where
  | of {pay discount writeOff : Money} {amounts : Amounts}
      (made : Amounts.of pay discount writeOff = .ok amounts) : Obtained reads amounts
  | zero (currency : Currency) : Obtained reads (Amounts.zero currency)
  | ofPay (pay : Money) : Obtained reads (Amounts.ofPay pay)
  | read {json : JsonValue} {amounts : Amounts} (allowed : reads)
      (made : JsonCodec.read? json = some amounts) : Obtained reads amounts
  | withPay {given amounts : Amounts} {pay : Money} (obtained : Obtained reads given)
      (made : given.withPay pay = .ok amounts) : Obtained reads amounts
  | withZeroPay {given : Amounts} (obtained : Obtained reads given) :
      Obtained reads given.withZeroPay
  | payToDiscount {given amounts : Amounts} (obtained : Obtained reads given)
      (made : given.payToDiscount = .ok amounts) : Obtained reads amounts
  | payToWriteOff {given amounts : Amounts} (obtained : Obtained reads given)
      (made : given.payToWriteOff = .ok amounts) : Obtained reads amounts
  | add {left right amounts : Amounts} (obtained : Obtained reads left)
      (obtained' : Obtained reads right) (made : left.add right = .ok amounts) :
      Obtained reads amounts
  | sub {left right amounts : Amounts} (obtained : Obtained reads left)
      (obtained' : Obtained reads right) (made : left.sub right = .ok amounts) :
      Obtained reads amounts
  | neg {given : Amounts} (obtained : Obtained reads given) : Obtained reads given.neg

theorem usesOnly_of {pay discount writeOff : Money}
    (made : Amounts.of pay discount writeOff = .ok amounts) :
    amounts.UsesOnly amounts.currency := by
  unfold Amounts.of at made
  split_ifs at made with discount_other writeOff_other
  cases made
  exact ⟨rfl, (not_not.mp discount_other).symm, (not_not.mp writeOff_other).symm⟩

/-- A combination whose parts keep the currency of the left ones is in one currency like the left
amounts. -/
theorem UsesOnly.of_combine {operation : Money → Money → Except Fault Money}
    (keeps : ∀ {left right result : Money}, operation left right = .ok result →
      result.currency = left.currency)
    (single : left.UsesOnly left.currency)
    (made : Amounts.combine operation left right = .ok amounts) :
    amounts.UsesOnly amounts.currency := by
  obtain ⟨pay, pay_eq, made⟩ := bind_eq_ok.mp made
  obtain ⟨discount, discount_eq, made⟩ := bind_eq_ok.mp made
  obtain ⟨writeOff, writeOff_eq, made⟩ := bind_eq_ok.mp made
  cases made
  have pay_currency := keeps pay_eq
  exact ⟨rfl, ((keeps discount_eq).trans single.discount).trans pay_currency.symm,
    ((keeps writeOff_eq).trans single.writeOff).trans pay_currency.symm⟩

/-- Amounts are in one currency unless they are read. -/
theorem Obtained.usesOnly (obtained : Obtained False amounts) :
    amounts.UsesOnly amounts.currency := by
  induction obtained with
  | of made => exact usesOnly_of made
  | zero currency => exact usesOnly_zero currency
  | ofPay pay => exact ⟨rfl, rfl, rfl⟩
  | read allowed made => exact allowed.elim
  | withPay obtained made single =>
      unfold Amounts.withPay at made
      split_ifs at made with same
      cases made
      exact ⟨rfl, single.discount.trans same.symm, single.writeOff.trans same.symm⟩
  | withZeroPay obtained single => exact ⟨rfl, single.discount, single.writeOff⟩
  | payToDiscount obtained made single =>
      obtain ⟨discount, discount_eq, made⟩ := bind_eq_ok.mp made
      cases made
      exact ⟨rfl, (Money.currency_add discount_eq).trans single.discount, single.writeOff⟩
  | payToWriteOff obtained made single =>
      obtain ⟨writeOff, writeOff_eq, made⟩ := bind_eq_ok.mp made
      cases made
      exact ⟨rfl, single.discount, (Money.currency_add writeOff_eq).trans single.writeOff⟩
  | add obtained obtained' made single single' =>
      exact single.of_combine Money.currency_add made
  | sub obtained obtained' made single single' =>
      exact single.of_combine Money.currency_sub made
  | neg obtained single => exact ⟨rfl, single.discount, single.writeOff⟩

end Amounts

/-! ## Drafts -/

namespace Payable

/-- A part of a draft that is filled in. -/
inductive Setter where
  | kind (value : PayableKind)
  | organization (id : OrganizationId)
  | partner (id : PartyId)
  | number (text : String)
  | side (value : TradeSide)
  | creditMemo (mark : Bool)
  | invoiceType (type : InvoiceType)
  | reference (value : Reference)
  | openAmount (money : Money)
  | amounts (given : Amounts)
  deriving DecidableEq, Repr

namespace Setter

/-- Fills in the part. -/
def fill (draft : Draft) : Setter → Draft
  | kind value => { draft with kind := value }
  | organization id => { draft with organization := some id }
  | partner id => { draft with partner := some id }
  | number text => { draft with number := text }
  | side value => { draft with side := some value }
  | creditMemo mark => { draft with creditMemo := mark }
  | invoiceType type => draft.withInvoiceType type
  | reference value => { draft with reference := some value }
  | openAmount money => { draft with openAmount := some money }
  | amounts given => { draft with amounts := some given }

/-- The open amount that is filled in. -/
def openAmount? : Setter → Option Money
  | openAmount money => some money
  | _ => none

/-- The amounts that are filled in. -/
def amounts? : Setter → Option Amounts
  | amounts given => some given
  | _ => none

end Setter

namespace Draft

/-- A new draft with parts filled in one after the other. -/
def ofSetters (setters : List Setter) : Draft := setters.foldl Setter.fill {}

/-- Of each part, what was filled in last stands. -/
theorem amounts_ofSetters (setters : List Setter) :
    (ofSetters setters).amounts = (setters.filterMap Setter.amounts?).getLast? ∧
      (ofSetters setters).openAmount = (setters.filterMap Setter.openAmount?).getLast? := by
  induction setters using List.reverseRecOn with
  | nil => exact ⟨rfl, rfl⟩
  | append_singleton earlier setter ih =>
      rw [ofSetters, List.foldl_append, List.filterMap_append, List.filterMap_append]
      obtain ⟨amounts_eq, open_eq⟩ := ih
      cases setter <;> simp [Setter.fill, Setter.amounts?, Setter.openAmount?, withInvoiceType,
        ← amounts_eq, ← open_eq, ofSetters]

/-- A completed payable has the amounts of its draft, and its open amount is the given one or their
total. -/
theorem amounts_of_complete {draft : Draft} {payable : Payable}
    (completed : draft.complete = .ok payable) :
    draft.amounts = some payable.initial ∧
      resolveOpen draft.openAmount payable.initial = .ok payable.openAmount := by
  unfold complete at completed
  obtain ⟨organization, -, completed⟩ := bind_eq_ok.mp completed
  obtain ⟨side, -, completed⟩ := bind_eq_ok.mp completed
  obtain ⟨reference, -, completed⟩ := bind_eq_ok.mp completed
  obtain ⟨amounts, amounts_eq, completed⟩ := bind_eq_ok.mp completed
  obtain ⟨⟨⟩, -, completed⟩ := bind_eq_ok.mp completed
  obtain ⟨openAmount, open_eq, completed⟩ := bind_eq_ok.mp completed
  split_ifs at completed with mismatch
  · cases completed
  · cases completed
    refine ⟨?_, open_eq⟩
    cases given : draft.amounts with
    | none =>
        rw [given] at amounts_eq
        cases amounts_eq
    | some found =>
        rw [given] at amounts_eq
        cases amounts_eq
        rfl

end Draft

/-- What is said of the currencies of a payable by the setters that its draft was filled in with. -/
structure Currencies (setters : List Setter) (payable : Payable) : Prop where
  initial_eq : (setters.filterMap Setter.amounts?).getLast? = some payable.initial
  remaining_eq : payable.remaining = payable.initial
  allocated_eq : payable.allocated = Amounts.zero payable.currency
  open_currency : payable.openAmount.currency = payable.currency
  single_iff : payable.SingleCurrency ↔ payable.initial.UsesOnly payable.currency
  /-- Amounts that were put together and not read are in one currency. -/
  of_obtained : payable.initial.Obtained False → payable.SingleCurrency
  /-- An open amount that was not given is a total. -/
  of_total : setters.filterMap Setter.openAmount? = [] → payable.SingleCurrency
  harmonious : payable.SingleCurrency → ∀ changes : List Change,
    (∀ change ∈ changes, change.UsesOnly payable.currency) →
    (payable.changed changes).IsIn payable.currency ∧ (payable.changed changes).Harmonious
  mixed : ¬payable.SingleCurrency →
    (∀ total, payable.initial.total ≠ .ok total) ∧
      ∀ amounts : Amounts, amounts.UsesOnly payable.currency →
        (payable.allocate amounts).fault? ≠ none

/-- An untouched payable is in one currency when its initial amounts are. -/
theorem Untouched.single_iff {payable : Payable} (untouched : payable.Untouched) :
    payable.SingleCurrency ↔ payable.initial.UsesOnly payable.currency := by
  constructor
  · exact SingleCurrency.initial
  · intro single
    exact ⟨untouched.open_currency, single, untouched.remaining_eq ▸ single,
      untouched.allocated_eq ▸ Amounts.usesOnly_zero _⟩

/-- The open amount of a completed payable is in the currency of its pay amount, and so are all of
its amounts unless they were read and the open amount was given: then currencies may be mixed.  In
one currency nothing ever clashes, and mixed amounts have no total and take no recording. -/
theorem Draft.currencies_of_complete (setters : List Setter) (payable : Payable)
    (completed : (ofSetters setters).complete = .ok payable) : payable.Currencies setters := by
  have untouched := untouched completed
  obtain ⟨amounts_eq, open_eq⟩ := amounts_of_complete completed
  obtain ⟨last_amounts, last_open⟩ := amounts_ofSetters setters
  refine
    { initial_eq := last_amounts ▸ amounts_eq
      remaining_eq := untouched.remaining_eq
      allocated_eq := untouched.allocated_eq
      open_currency := untouched.open_currency
      single_iff := untouched.single_iff
      of_obtained := fun obtained => untouched.single_iff.mpr obtained.usesOnly
      of_total := ?_
      harmonious := ?_
      mixed := ?_ }
  · intro not_given
    rw [last_open, not_given] at open_eq
    obtain total_eq := orBroken_eq_ok.mp open_eq
    exact untouched.single_iff.mpr (Amounts.usesOnly_of_total total_eq)
  · intro single changes changes_single
    have within := single.isIn_changed changes_single
    exact ⟨within, within.1.harmonious⟩
  · intro not_single
    rw [untouched.single_iff] at not_single
    constructor
    · exact fun total total_eq => not_single (Amounts.usesOnly_of_total total_eq)
    · intro amounts amounts_single recorded
      have remaining_single := usesOnly_of_allocate amounts_single recorded
      rw [untouched.remaining_eq] at remaining_single
      exact not_single remaining_single

end Payable

namespace Samples

/-- Setters of a sample invoice, the first amounts in another currency than those that stand. -/
def setters : List Payable.Setter :=
  [.organization organization, .partner partner, .number invoiceNumber, .side .sales,
    .amounts (.zero .eur), .reference (.invoice (.ofNat 1)), .openAmount (.ofMinor 10025 .usd),
    .amounts (minorAmounts .usd 10025 200 100)]

/-- A sample draft is completed to an invoice in one currency, in which nothing ever clashes. -/
theorem currencies_of_setters :
    (Payable.Draft.ofSetters setters).complete = .ok (invoice 1 .sales false 10025 200 100) ∧
      (minorAmounts .usd 10025 200 100).Obtained False ∧
      (invoice 1 .sales false 10025 200 100).Currencies setters :=
  ⟨rfl,
    .of (show Amounts.of (.ofMinor 10025 .usd) (.ofMinor 200 .usd) (.ofMinor 100 .usd) =
      .ok (minorAmounts .usd 10025 200 100) from rfl),
    Payable.Draft.currencies_of_complete setters _ rfl⟩

/-- The JSON of amounts with a discount in another currency. -/
def mixedJson : JsonValue :=
  .object
    [("pay_amt", .object [("amount", .string "100"), ("currency", .string "USD")]),
      ("discount_amt", .object [("amount", .string "5"), ("currency", .string "EUR")]),
      ("write_off_amt", .object [("amount", .string "0"), ("currency", .string "USD")])]

/-- Setters of an invoice with these amounts, and with its open amount given. -/
def mixedSetters : List Payable.Setter :=
  [.organization (.ofNat 1), .side .sales, .reference (.invoice (.ofNat 1)),
    .openAmount (.ofMinor 10000 .usd), .amounts (minorAmounts .eur 10000 500 0)]

/-- Amounts that were read in two currencies pass the check of a draft, and what is recorded on the
payable in its own currency is cut short. -/
theorem mixed_setters_complete :
    (∀ amounts ∈ mixedSetters.filterMap Payable.Setter.amounts?, amounts.Obtained True) ∧
      ∃ payable, (Payable.Draft.ofSetters mixedSetters).complete = .ok payable ∧
        payable.openAmount.currency = .usd ∧ payable.initial.discount.currency = .eur ∧
        ¬payable.SingleCurrency ∧
        payable.initial.total = .error (.currencyMismatch .sum .usd .eur) ∧
        (payable.allocate (minorAmounts .usd 1000 0 0)).fault? =
          some (.currencyMismatch .difference .eur .usd) := by
  have made : (JsonCodec.read? mixedJson : Option Amounts) =
      some (minorAmounts .eur 10000 500 0) := by decide +kernel
  constructor
  · intro amounts mem
    obtain rfl := List.mem_singleton.mp mem
    exact .read trivial made
  · refine ⟨_, rfl, rfl, rfl, ?_, by decide +kernel, by decide +kernel⟩
    intro single
    cases single.initial.discount

end Samples
end Settlement
