import Settlement.Proofs.Exact.Money
import Settlement.Proofs.Written.Codecs

/-!
# Fraction digits of money

Money keeps four fraction digits.  Whatever is made or computed has no more of them, so rounding
has nothing left to take away from it.  Only money that is read may carry more, and it does until
it is next added, subtracted or negated: then the digits that were read and compared are gone.
-/

namespace Settlement

namespace Decimal

variable {left right number : Decimal}

/-- No digit is put to an exact number. -/
theorem scale_ofExact?_le {negative : Bool} {magnitude scale : Nat}
    (found : ofExact? negative magnitude scale = some number) : number.scale ≤ scale := by
  rw [ofExact?_eq] at found
  obtain ⟨dropped, -, kept⟩ := List.exists_of_findSome?_eq_some found
  rw [(fit?_eq_some kept).2.2]
  exact Nat.sub_le _ _

theorem sum?_onGrid (left_grid : left.OnGrid) (right_grid : right.OnGrid)
    (sum_eq : left.sum? right = some number) : number.OnGrid := by
  unfold sum? at sum_eq
  split_ifs at sum_eq
  · cases sum_eq
    exact right_grid
  · cases sum_eq
    exact left_grid
  · exact (scale_ofExact?_le sum_eq).trans (Nat.max_le.mpr ⟨left_grid, right_grid⟩)

theorem difference?_onGrid (left_grid : left.OnGrid) (right_grid : right.OnGrid)
    (difference_eq : left.difference? right = some number) : number.OnGrid := by
  unfold difference? at difference_eq
  split_ifs at difference_eq
  · cases difference_eq
    exact right_grid
  · exact sum?_onGrid left_grid (onGrid_neg right_grid) difference_eq

end Decimal

namespace Money

variable {left right money result : Money}

/-- Money that is made or computed or, where that is allowed, read from JSON. -/
inductive Obtained (reads : Prop) : Money → Prop where
  | of (amount : Decimal) (currency : Currency) : Obtained reads (Money.of amount currency)
  | ofMinor (units : Int64) (currency : Currency) : Obtained reads (Money.ofMinor units currency)
  | zero (currency : Currency) : Obtained reads (Money.zero currency)
  | read {json : JsonValue} {money : Money} (allowed : reads)
      (made : JsonCodec.read? json = some money) : Obtained reads money
  | add {left right money : Money} (obtained : Obtained reads left)
      (obtained' : Obtained reads right) (made : left.add right = .ok money) :
      Obtained reads money
  | sub {left right money : Money} (obtained : Obtained reads left)
      (obtained' : Obtained reads right) (made : left.sub right = .ok money) :
      Obtained reads money
  | checkedAdd {left right money : Money} (obtained : Obtained reads left)
      (obtained' : Obtained reads right) (made : left.checkedAdd right = .ok (.ok money)) :
      Obtained reads money
  | checkedSub {left right money : Money} (obtained : Obtained reads left)
      (obtained' : Obtained reads right) (made : left.checkedSub right = .ok (.ok money)) :
      Obtained reads money
  | neg {given : Money} (obtained : Obtained reads given) : Obtained reads given.neg
  | abs {given : Money} (obtained : Obtained reads given) : Obtained reads given.abs
  | min {left right money : Money} (obtained : Obtained reads left)
      (obtained' : Obtained reads right) (made : left.min right = .ok money) :
      Obtained reads money
  | max {left right money : Money} (obtained : Obtained reads left)
      (obtained' : Obtained reads right) (made : left.max right = .ok money) :
      Obtained reads money

/-! ## Where digits come from -/

/-- Money as it was read, or without its sign. -/
def IsRead (money : Money) : Prop :=
  ∃ (json : JsonValue) (given : Money),
    JsonCodec.read? json = some given ∧ (money = given ∨ money = given.abs)

theorem onGrid_of (amount : Decimal) (currency : Currency) : (of amount currency).amount.OnGrid :=
  Decimal.scale_round_le places amount

theorem onGrid_add (made : left.add right = .ok result) : result.amount.OnGrid := by
  obtain ⟨-, sum, -, rfl⟩ := add_eq_ok.mp made
  exact onGrid_of sum _

theorem onGrid_sub (made : left.sub right = .ok result) : result.amount.OnGrid := by
  obtain ⟨-, difference, -, rfl⟩ := sub_eq_ok.mp made
  exact onGrid_of difference _

theorem onGrid_neg (money : Money) : money.neg.amount.OnGrid := onGrid_of _ _

/-- Only what was read has digits that rounding would take away. -/
theorem Obtained.onGrid_or_isRead {reads : Prop} (obtained : Obtained reads money) :
    money.amount.OnGrid ∨ (reads ∧ money.IsRead) := by
  induction obtained with
  | of amount currency => exact .inl (onGrid_of amount currency)
  | ofMinor units currency => exact .inl (onGrid_of _ currency)
  | zero currency => exact .inl Decimal.onGrid_zero
  | @read json money allowed made => exact .inr ⟨allowed, json, money, made, .inl rfl⟩
  | add obtained obtained' made => exact .inl (onGrid_add made)
  | sub obtained obtained' made => exact .inl (onGrid_sub made)
  | checkedAdd obtained obtained' made => exact .inl (onGrid_add (guarded_eq_ok.mp made).2)
  | checkedSub obtained obtained' made => exact .inl (onGrid_sub (guarded_eq_ok.mp made).2)
  | neg obtained => exact .inl (onGrid_neg _)
  | abs obtained ih =>
      rcases ih with grid | ⟨allowed, json, given, made, rfl | rfl⟩
      · exact .inl grid
      · exact .inr ⟨allowed, json, _, made, .inr rfl⟩
      · exact .inr ⟨allowed, json, given, made, .inr rfl⟩
  | min obtained obtained' made ih ih' =>
      obtain ⟨-, rfl | rfl⟩ := min_eq_ok made
      · exact ih
      · exact ih'
  | max obtained obtained' made ih ih' =>
      obtain ⟨-, rfl | rfl⟩ := max_eq_ok made
      · exact ih
      · exact ih'

/-- Money that rounding leaves as it is can be made anew from its own amount. -/
theorem of_eq_self_iff : of money.amount money.currency = money ↔ money.amount.OnGrid := by
  constructor
  · intro same
    rw [← same]
    exact onGrid_of _ _
  · intro grid
    exact of_eq grid money.currency

theorem obtained_of_onGrid {reads : Prop} (grid : money.amount.OnGrid) : Obtained reads money := by
  rw [← of_eq_self_iff.mpr grid]
  exact .of _ _

theorem obtained_of_isRead (read : money.IsRead) : Obtained True money := by
  obtain ⟨json, given, made, rfl | rfl⟩ := read
  · exact .read trivial made
  · exact .abs (.read trivial made)

/-! ## What becomes of digits -/

/-- What is known of the fraction digits of money. -/
structure FractionDigits (money : Money) : Prop where
  /-- Money that is not read is the money with at most four of them. -/
  made_iff : Obtained False money ↔ money.amount.scale ≤ places
  /-- There is no other money but what is read, with or without its sign. -/
  obtained_iff : Obtained True money ↔ money.amount.scale ≤ places ∨ money.IsRead
  /-- Rounding takes digits away where there are more than four, and nowhere else. -/
  rounded_iff : of money.amount money.currency = money ↔ money.amount.scale ≤ places
  /-- The next operation leaves no more than four. -/
  next_le : ∀ other result : Money,
    money.add other = .ok result ∨ other.add money = .ok result ∨
      money.sub other = .ok result ∨ other.sub money = .ok result ∨ money.neg = result →
    result.amount.scale ≤ places
  /-- No digit of a sum or difference is rounded away where there were no more than four. -/
  exact_of_le : money.amount.scale ≤ places → ∀ other : Money, other.amount.scale ≤ places →
    (∀ sum, money.add other = .ok sum → money.amount.sum? other.amount = some sum.amount) ∧
      (∀ difference, money.sub other = .ok difference →
        money.amount.difference? other.amount = some difference.amount) ∧
      money.neg.amount = money.amount.neg

/-- Money has at most four fraction digits unless it was read with more, and the next operation that
computes with them rounds them away. -/
theorem fractionDigits (money : Money) : money.FractionDigits where
  made_iff := by
    constructor
    · intro obtained
      rcases obtained.onGrid_or_isRead with grid | ⟨allowed, -⟩
      · exact grid
      · exact allowed.elim
    · exact obtained_of_onGrid
  obtained_iff := by
    constructor
    · intro obtained
      rcases obtained.onGrid_or_isRead with grid | ⟨-, read⟩
      · exact .inl grid
      · exact .inr read
    · rintro (grid | read)
      · exact obtained_of_onGrid grid
      · exact obtained_of_isRead read
  rounded_iff := of_eq_self_iff
  next_le := by
    rintro other result (sum | sum | difference | difference | rfl)
    · exact onGrid_add sum
    · exact onGrid_add sum
    · exact onGrid_sub difference
    · exact onGrid_sub difference
    · exact onGrid_neg money
  exact_of_le := by
    intro grid other other_grid
    refine ⟨?_, ?_, ?_⟩
    · intro sum made
      obtain ⟨-, amount, amount_eq, rfl⟩ := add_eq_ok.mp made
      rw [of_eq (Decimal.sum?_onGrid grid other_grid amount_eq)]
      exact amount_eq
    · intro difference made
      obtain ⟨-, amount, amount_eq, rfl⟩ := sub_eq_ok.mp made
      rw [of_eq (Decimal.difference?_onGrid grid other_grid amount_eq)]
      exact amount_eq
    · exact Decimal.round_of_scale_le (Decimal.onGrid_neg grid)

end Money

namespace Samples

/-- The JSON of an amount with five fraction digits. -/
def fineJson : JsonValue := .object [("amount", .string "0.00004"), ("currency", .string "USD")]

/-- An amount with five fraction digits. -/
def fine : Money := ⟨⟨false, 4, 5, by decide, by decide⟩, .usd⟩

theorem fine_isRead : fine.IsRead := ⟨fineJson, fine, by decide +kernel, .inl rfl⟩

/-- An amount that was read with more than four fraction digits is above zero until zero is taken
off it. -/
theorem fine_obtained :
    Money.Obtained True fine ∧ ¬fine.amount.scale ≤ Money.places ∧ fine.isZero = false ∧
      ∃ rest, fine.sub (.zero .usd) = .ok rest ∧ rest.isZero = true :=
  ⟨Money.obtained_of_isRead fine_isRead, by decide, by decide, _, rfl, by decide⟩

/-- No computation makes an amount with five fraction digits and none leaves them, and one with two
keeps them. -/
theorem fractionDigits_samples :
    fine.IsRead ∧ ¬Money.Obtained False fine ∧ fine.neg.amount.scale ≤ Money.places ∧
      (Money.ofMinor 10025 .usd).amount.scale ≤ Money.places ∧
      Money.Obtained False (.ofMinor 10025 .usd) ∧
      (Money.ofMinor 10025 .usd).neg.amount = (Money.ofMinor 10025 .usd).amount.neg := by
  have cents : (Money.ofMinor 10025 .usd).amount.scale ≤ Money.places := by decide
  have read := Money.fractionDigits fine
  have made := Money.fractionDigits (.ofMinor 10025 .usd)
  refine ⟨fine_isRead, ?_, read.next_le fine _ (by simp), cents, made.made_iff.mpr cents,
    (made.exact_of_le cents _ cents).2.2⟩
  rw [read.made_iff]
  decide

end Samples
end Settlement
