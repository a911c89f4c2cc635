import Mathlib.Algebra.BigOperators.Group.List.Basic
import Mathlib.Algebra.Order.Field.Basic
import Settlement.Proofs.Exact.Money

/-!
# Totals of amounts

The amounts of selected entries of a list added up, as values, as magnitudes and in ticks.  For
exact amounts the first two are the last divided by ten thousand.
-/

namespace Settlement

variable {α β : Type}

/-- The amounts of the entries with a property together. -/
def total (property : α → Bool) (amount : α → Money) (entries : List α) : Rat :=
  ((entries.filter property).map fun entry => (amount entry).amount.value).sum

/-- The magnitudes of the amounts of the entries with a property together. -/
def totalMagnitude (property : α → Bool) (amount : α → Money) (entries : List α) : Rat :=
  ((entries.filter property).map fun entry => |(amount entry).amount.value|).sum

/-- The amounts of the entries with a property together, in ticks. -/
def totalTicks (property : α → Bool) (amount : α → Money) (entries : List α) : Int :=
  ((entries.filter property).map fun entry => (amount entry).ticks).sum

@[simp]
theorem totalTicks_nil (property : α → Bool) (amount : α → Money) :
    totalTicks property amount [] = 0 := rfl

@[simp]
theorem totalTicks_cons (property : α → Bool) (amount : α → Money) (entry : α)
    (rest : List α) :
    totalTicks property amount (entry :: rest) =
      (if property entry then (amount entry).ticks else 0) + totalTicks property amount rest := by
  unfold totalTicks
  by_cases holds : property entry = true
  · rw [List.filter_cons_of_pos holds, List.map_cons, List.sum_cons, if_pos holds]
  · rw [List.filter_cons_of_neg holds, if_neg holds, Int.zero_add]

theorem totalTicks_append (property : α → Bool) (amount : α → Money) (first second : List α) :
    totalTicks property amount (first ++ second) =
      totalTicks property amount first + totalTicks property amount second := by
  rw [totalTicks, List.filter_append, List.map_append, List.sum_append, totalTicks, totalTicks]

/-- Entries without an amount may be left out. -/
theorem totalTicks_filter {property keep : α → Bool} {amount : α → Money} {entries : List α}
    (dropped : ∀ entry ∈ entries, keep entry = false → (amount entry).ticks = 0) :
    totalTicks property amount (entries.filter keep) = totalTicks property amount entries := by
  induction entries with
  | nil => rfl
  | cons entry rest ih =>
      have tail := ih fun other mem => dropped other (by simp [mem])
      cases kept : keep entry with
      | true => rw [List.filter_cons_of_pos kept, totalTicks_cons, totalTicks_cons, tail]
      | false =>
          have nothing := dropped entry (by simp) kept
          rw [List.filter_cons_of_neg (by simp [kept]), totalTicks_cons, nothing, tail, ite_self,
            Int.zero_add]

/-- Exact amounts together are their ticks together, divided by ten thousand. -/
theorem total_eq (property : α → Bool) {amount : α → Money} {entries : List α}
    (grid : ∀ entry ∈ entries, (amount entry).amount.OnGrid) :
    total property amount entries =
      (totalTicks property amount entries : Rat) / tenTo Money.places := by
  induction entries with
  | nil => simp [total]
  | cons entry rest ih =>
      have head : (amount entry).amount.value =
          ((amount entry).ticks : Rat) / tenTo Money.places :=
        Decimal.value_eq_ticks (grid entry (by simp))
      have tail := ih fun other mem => grid other (by simp [mem])
      rw [totalTicks_cons]
      unfold total at *
      by_cases holds : property entry = true
      · rw [List.filter_cons_of_pos holds, List.map_cons, List.sum_cons, head, tail,
          if_pos holds]
        push_cast
        rw [add_div]
      · rw [List.filter_cons_of_neg holds, if_neg holds, Int.zero_add]
        exact tail

/-- Exact magnitudes together are their ticks together, divided by ten thousand. -/
theorem totalMagnitude_eq {property : α → Bool} {amount : α → Money} {ticks : α → Int}
    {entries : List α} (grid : ∀ entry ∈ entries, (amount entry).amount.OnGrid)
    (counts : ∀ entry ∈ entries,
      ticks entry = if property entry then ((amount entry).ticks.natAbs : Int) else 0) :
    totalMagnitude property amount entries =
      ((entries.map ticks).sum : Rat) / tenTo Money.places := by
  induction entries with
  | nil => simp [totalMagnitude]
  | cons entry rest ih =>
      have tail := ih (fun other mem => grid other (by simp [mem]))
        fun other mem => counts other (by simp [mem])
      have magnitude : |(amount entry).amount.value| =
          |((amount entry).ticks : Rat)| / tenTo Money.places := by
        rw [Decimal.value_eq_ticks (grid entry (by simp)), abs_div, Nat.abs_cast]
        rfl
      rw [List.map_cons, List.sum_cons, counts entry (by simp)]
      unfold totalMagnitude at *
      by_cases holds : property entry = true
      · rw [List.filter_cons_of_pos holds, List.map_cons, List.sum_cons, magnitude, tail,
          if_pos holds]
        push_cast
        rw [add_div]
      · rw [List.filter_cons_of_neg holds, if_neg holds, Int.zero_add]
        exact tail

end Settlement
