import Mathlib.Data.List.Basic
import Mathlib.Data.Nat.Digits.Defs
import Settlement.Decimal.Text
import Settlement.Proofs.Values.Decimal

/-!
# Decimals read back from their text

The text of a decimal is read back digit by digit.  No digit is rounded off, because on the way the
coefficient stays below the one that was written.  What comes back is the number as it was written,
except for a minus sign on zero.
-/

namespace Settlement

/-! ## Digit strings -/

theorem appendDigit?_eq_some {base number result : Nat} {digit : Char} :
    appendDigit? base number digit = some result ↔
      ∃ value < base, digitValue? digit = some value ∧ number * base + value = result := by
  simp only [appendDigit?, Option.bind_eq_some_iff, Option.ite_none_right_eq_some,
    Option.some.injEq]
  constructor
  · rintro ⟨value, counts, small, appended⟩
    exact ⟨value, small, counts, appended⟩
  · rintro ⟨value, small, counts, appended⟩
    exact ⟨value, counts, small, appended⟩

/-- Digits that are read never make the number smaller. -/
theorem le_of_digits {base start number : Nat} {digits : List Char} (positive : 0 < base)
    (counts : digits.foldlM (appendDigit? base) start = some number) : start ≤ number := by
  induction digits generalizing start with
  | nil =>
      obtain rfl : start = number := by simpa using counts
      exact Nat.le_refl _
  | cons digit digits ih =>
      obtain ⟨next, appended, rest⟩ := Option.bind_eq_some_iff.mp counts
      obtain ⟨value, -, -, rfl⟩ := appendDigit?_eq_some.mp appended
      have := Nat.le_mul_of_pos_right start positive
      have := ih rest
      omega

/-- What is read as a number consists of digits. -/
theorem isSome_of_digits {base start number : Nat} {digits : List Char}
    (counts : digits.foldlM (appendDigit? base) start = some number) :
    ∀ digit ∈ digits, (digitValue? digit).isSome := by
  induction digits generalizing start with
  | nil => simp
  | cons digit digits ih =>
      obtain ⟨next, appended, rest⟩ := Option.bind_eq_some_iff.mp counts
      obtain ⟨value, -, digit_counts, -⟩ := appendDigit?_eq_some.mp appended
      simp only [List.forall_mem_cons, digit_counts, Option.isSome_some, true_and]
      exact ih rest

/-- The shortest digits of a number are read back as the number. -/
theorem ofDigits?_toDigits (number : Nat) :
    ofDigits? 10 (Nat.toDigits 10 number) = some number := by
  induction number using Nat.strongRecOn with
  | ind number ih =>
      have last := Nat.mod_lt number (show 10 > 0 by decide)
      rw [Nat.toDigits_eq_if (by decide)]
      split
      · rename_i small
        simp [ofDigits?, appendDigit?_digitChar 0 small (by decide)]
      · rw [ofDigits?_concat, ih (number / 10) (by omega), Option.bind_some,
          appendDigit?_digitChar _ last (by decide), Nat.div_add_mod']

namespace Decimal

/-! ## Behind the point -/

/-- Digits behind the point that fit are all kept. -/
theorem ofFraction?_digits (negative : Bool) {digits : List Char} {start scale number : Nat}
    (counts : digits.foldlM (appendDigit? 10) start = some number)
    (fits : number < coefficientLimit) (short : scale + digits.length ≤ 28) :
    (digits.mapM digitOrGap?).bind (ofFraction? negative start scale) =
      ofCoefficient? negative number (scale + digits.length) := by
  induction digits generalizing start scale with
  | nil =>
      obtain rfl : start = number := by simpa using counts
      simp [ofFraction?]
  | cons digit digits ih =>
      obtain ⟨next, appended, rest⟩ := Option.bind_eq_some_iff.mp counts
      obtain ⟨value, small, digit_counts, rfl⟩ := appendDigit?_eq_some.mp appended
      have below := le_of_digits (by decide) rest
      have ungapped : digit ≠ '_' := by
        rintro rfl
        simp [show digitValue? '_' = none from by decide] at digit_counts
      have mark : digitOrGap? digit = some (some value) := by
        simp [digitOrGap?, ungapped, decimalDigit?, digit_counts, Option.filter, small]
      rw [List.length_cons] at short ⊢
      have kept : start * 10 + value < coefficientLimit ∧ scale < 28 := by omega
      have shifted : scale + (digits.length + 1) = scale + 1 + digits.length := by omega
      rw [List.mapM_cons, mark, shifted, ← ih rest (by omega)]
      cases digits.mapM digitOrGap? <;> simp [ofFraction?, kept]

/-! ## The whole text -/

/-- The number without the sign of zero. -/
def plain (number : Decimal) : Decimal :=
  { number with negative := number.negative && number.coefficient != 0 }

theorem plain_sameValue (number : Decimal) : number.plain.SameValue number := by
  have same : number.plain.units = number.units := by
    simp only [plain, units, Bool.and_eq_true, bne_iff_ne]
    split <;> split <;> simp_all
  rw [SameValue, same]
  rfl

theorem plain_of_coefficient_ne_zero {number : Decimal} (nonzero : number.coefficient ≠ 0) :
    number.plain = number := by
  cases number
  simp_all [plain]

theorem ofCoefficient?_eq_plain (number : Decimal) :
    ofCoefficient? number.negative number.coefficient number.scale = some number.plain := by
  rw [ofCoefficient?, dif_pos ⟨number.coefficient_lt, number.scale_le⟩]
  rfl

variable (number : Decimal)

theorem ofDigits?_wholeDigits :
    ofDigits? 10 number.wholeDigits = some (number.coefficient / tenTo number.scale) :=
  ofDigits?_toDigits _

theorem isSome_wholeDigits : ∀ digit ∈ number.wholeDigits, (digitValue? digit).isSome :=
  isSome_of_digits (ofDigits?_wholeDigits number)

/-- The digits behind the point carry on where those before it end. -/
theorem foldlM_fractionDigits :
    number.fractionDigits.foldlM (appendDigit? 10) (number.coefficient / tenTo number.scale) =
      some number.coefficient := by
  rw [fractionDigits, foldlM_fixedDigits (by decide) (by decide)]
  exact congrArg some (Nat.div_add_mod' _ _)

theorem ofParts?_digits (negative : Bool) :
    ofParts? negative number.wholeDigits number.fractionDigits =
      ofCoefficient? negative number.coefficient number.scale := by
  have digits := isSome_wholeDigits number
  have ungrouped : number.wholeDigits.filter (· != '_') = number.wholeDigits := by
    refine List.filter_eq_self.mpr fun digit mem => ?_
    rw [bne_iff_ne]
    rintro rfl
    exact absurd (digits _ mem) (by decide)
  have places_le : 0 + number.fractionDigits.length ≤ 28 := by
    simpa [fractionDigits] using number.scale_le
  have read := ofFraction?_digits negative (foldlM_fractionDigits number) number.coefficient_lt
    places_le
  rw [fractionDigits, length_fixedDigits, Nat.zero_add, ← fractionDigits] at read
  rw [ofParts?, ungrouped, ofDigits?_wholeDigits]
  split
  · rename_i empty
    exact absurd (List.append_eq_nil_iff.mp empty).1 Nat.toDigits_ne_nil
  · rename_i rest grouped
    obtain ⟨first, others, whole⟩ := List.exists_cons_of_ne_nil
      (show number.wholeDigits ≠ [] from Nat.toDigits_ne_nil)
    rw [whole, List.cons_append, List.cons.injEq] at grouped
    rw [whole, grouped.1] at digits
    exact absurd (digits '_' (by simp)) (by decide)
  · exact read

theorem splitSign_toChars :
    splitSign number.toChars =
      (number.negative, number.wholeDigits ++ pointed number.fractionDigits) := by
  obtain ⟨first, others, whole⟩ := List.exists_cons_of_ne_nil
    (show number.wholeDigits ≠ [] from Nat.toDigits_ne_nil)
  have digit := isSome_wholeDigits number first (by simp [whole])
  rw [toChars, signChars, whole]
  cases number.negative with
  | true => simp [splitSign]
  | false =>
      simp only [Bool.false_eq_true, if_false, List.nil_append, List.cons_append]
      rw [splitSign]
      · rintro rest ⟨rfl, -⟩
        exact absurd digit (by decide)
      · rintro rest ⟨rfl, -⟩
        exact absurd digit (by decide)

/-- The point divides the digits as they were written. -/
theorem split_point :
    let body := number.wholeDigits ++ pointed number.fractionDigits
    body.takeWhile (· != '.') = number.wholeDigits ∧
      (body.dropWhile (· != '.')).drop 1 = number.fractionDigits := by
  have whole : ∀ digit ∈ number.wholeDigits, (digit != '.') = true := by
    intro digit mem
    rw [bne_iff_ne]
    rintro rfl
    exact absurd (isSome_wholeDigits number _ mem) (by decide)
  dsimp only
  rw [List.takeWhile_append_of_pos whole, List.dropWhile_append_of_pos whole]
  cases number.fractionDigits <;> simp [pointed]

/-- A decimal is read back from its text as it was written, except for the sign of zero. -/
theorem ofText?_toText : ofText? number.toText = some number.plain := by
  rw [ofText?, toText, String.toList_ofList, ofChars?, splitSign_toChars]
  dsimp only
  rw [(split_point number).1, (split_point number).2, ofParts?_digits, ofCoefficient?_eq_plain]

end Decimal
end Settlement
