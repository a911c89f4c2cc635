import Mathlib.Algebra.Group.Int.Defs
import Settlement.Amounts
import Settlement.Proofs.Exact.Money

/-!
# Amounts in whole ticks

The three parts of an amount as whole numbers, with their sums taken part by part.  Exact amounts
are added, subtracted and totalled like their parts while these are small together.
-/

namespace Settlement

/-- A pay amount with its discount and write-off, all in ticks. -/
@[ext]
structure Parts where
  /-- What is paid. -/
  pay : Int
  /-- What is granted as discount. -/
  discount : Int
  /-- What is written off. -/
  writeOff : Int
  deriving DecidableEq, Repr

namespace Parts

instance : Zero Parts := ⟨⟨0, 0, 0⟩⟩

instance : Add Parts :=
  ⟨fun left right =>
    ⟨left.pay + right.pay, left.discount + right.discount, left.writeOff + right.writeOff⟩⟩

instance : Neg Parts := ⟨fun parts => ⟨-parts.pay, -parts.discount, -parts.writeOff⟩⟩

instance : Sub Parts :=
  ⟨fun left right =>
    ⟨left.pay - right.pay, left.discount - right.discount, left.writeOff - right.writeOff⟩⟩

@[simp] theorem pay_zero : (0 : Parts).pay = 0 := rfl
@[simp] theorem discount_zero : (0 : Parts).discount = 0 := rfl
@[simp] theorem writeOff_zero : (0 : Parts).writeOff = 0 := rfl

@[simp] theorem pay_add (left right : Parts) : (left + right).pay = left.pay + right.pay := rfl

@[simp] theorem discount_add (left right : Parts) :
    (left + right).discount = left.discount + right.discount := rfl

@[simp] theorem writeOff_add (left right : Parts) :
    (left + right).writeOff = left.writeOff + right.writeOff := rfl

@[simp] theorem pay_neg (parts : Parts) : (-parts).pay = -parts.pay := rfl
@[simp] theorem discount_neg (parts : Parts) : (-parts).discount = -parts.discount := rfl
@[simp] theorem writeOff_neg (parts : Parts) : (-parts).writeOff = -parts.writeOff := rfl

@[simp] theorem pay_sub (left right : Parts) : (left - right).pay = left.pay - right.pay := rfl

@[simp] theorem discount_sub (left right : Parts) :
    (left - right).discount = left.discount - right.discount := rfl

@[simp] theorem writeOff_sub (left right : Parts) :
    (left - right).writeOff = left.writeOff - right.writeOff := rfl

instance : AddCommGroup Parts where
  add_assoc first second third := by ext <;> simp [Int.add_assoc]
  zero_add parts := by ext <;> simp
  add_zero parts := by ext <;> simp
  add_comm left right := by ext <;> simp [Int.add_comm]
  neg_add_cancel parts := by ext <;> exact Int.add_left_neg _
  sub_eq_add_neg left right := by ext <;> simp [Int.sub_eq_add_neg]
  nsmul := nsmulRec
  zsmul := zsmulRec

/-- A pay amount alone. -/
def ofPay (pay : Int) : Parts := ⟨pay, 0, 0⟩

@[simp] theorem pay_ofPay (pay : Int) : (ofPay pay).pay = pay := rfl
@[simp] theorem discount_ofPay (pay : Int) : (ofPay pay).discount = 0 := rfl
@[simp] theorem writeOff_ofPay (pay : Int) : (ofPay pay).writeOff = 0 := rfl

/-- The three parts together. -/
def total (parts : Parts) : Int := parts.pay + parts.discount + parts.writeOff

/-- The magnitudes of the three parts together. -/
def magnitude (parts : Parts) : Nat :=
  parts.pay.natAbs + parts.discount.natAbs + parts.writeOff.natAbs

/-- Every part is small enough for the coefficient of a decimal. -/
structure Small (parts : Parts) : Prop where
  pay : parts.pay.natAbs < coefficientLimit
  discount : parts.discount.natAbs < coefficientLimit
  writeOff : parts.writeOff.natAbs < coefficientLimit

/-- Parts that are small together are small. -/
theorem Small.of_magnitude {parts : Parts} (small : parts.magnitude < coefficientLimit) :
    parts.Small := by
  unfold magnitude at small
  exact ⟨by omega, by omega, by omega⟩

theorem Small.neg {parts : Parts} (small : parts.Small) : (-parts).Small := by
  obtain ⟨pay, discount, writeOff⟩ := small
  refine ⟨?_, ?_, ?_⟩
  · rwa [pay_neg, Int.natAbs_neg]
  · rwa [discount_neg, Int.natAbs_neg]
  · rwa [writeOff_neg, Int.natAbs_neg]

@[simp]
theorem total_add (left right : Parts) : (left + right).total = left.total + right.total := by
  simp only [total, pay_add, discount_add, writeOff_add]
  omega

@[simp]
theorem total_sub (left right : Parts) : (left - right).total = left.total - right.total := by
  simp only [total, pay_sub, discount_sub, writeOff_sub]
  omega

@[simp]
theorem total_zero : (0 : Parts).total = 0 := rfl

@[simp]
theorem magnitude_zero : (0 : Parts).magnitude = 0 := rfl

theorem magnitude_ofPay (pay : Int) : (ofPay pay).magnitude = pay.natAbs := by
  simp [magnitude]

theorem natAbs_total_le (parts : Parts) : parts.total.natAbs ≤ parts.magnitude := by
  simp only [total, magnitude]
  omega

theorem magnitude_neg (parts : Parts) : (-parts).magnitude = parts.magnitude := by
  simp only [magnitude, pay_neg, discount_neg, writeOff_neg, Int.natAbs_neg]

theorem magnitude_add_le (left right : Parts) :
    (left + right).magnitude ≤ left.magnitude + right.magnitude :=
  calc (left + right).magnitude
      ≤ (left.pay.natAbs + right.pay.natAbs) + (left.discount.natAbs + right.discount.natAbs) +
          (left.writeOff.natAbs + right.writeOff.natAbs) :=
        Nat.add_le_add (Nat.add_le_add (Int.natAbs_add_le _ _) (Int.natAbs_add_le _ _))
          (Int.natAbs_add_le _ _)
    _ = left.magnitude + right.magnitude := by
        rw [magnitude, magnitude, Nat.add_add_add_comm left.pay.natAbs, Nat.add_add_add_comm]

theorem magnitude_sub_le (left right : Parts) :
    (left - right).magnitude ≤ left.magnitude + right.magnitude := by
  rw [sub_eq_add_neg, ← right.magnitude_neg]
  exact magnitude_add_le left (-right)

end Parts

namespace Amounts

/-- Amounts in one currency with at most four fraction digits in every part. -/
structure Exact (currency : Currency) (amounts : Amounts) : Prop where
  pay : amounts.pay.Exact currency
  discount : amounts.discount.Exact currency
  writeOff : amounts.writeOff.Exact currency

/-- The parts in ticks. -/
def parts (amounts : Amounts) : Parts :=
  ⟨amounts.pay.ticks, amounts.discount.ticks, amounts.writeOff.ticks⟩

/-- A computation gives exact amounts with some parts. -/
def Gives (currency : Currency) (parts : Parts) (computed : Except Fault Amounts) : Prop :=
  ∃ amounts, computed = .ok amounts ∧ amounts.Exact currency ∧ amounts.parts = parts

@[simp] theorem pay_parts (amounts : Amounts) : amounts.parts.pay = amounts.pay.ticks := rfl

@[simp] theorem discount_parts (amounts : Amounts) :
    amounts.parts.discount = amounts.discount.ticks := rfl

@[simp] theorem writeOff_parts (amounts : Amounts) :
    amounts.parts.writeOff = amounts.writeOff.ticks := rfl

theorem exact_zero (currency : Currency) : (zero currency).Exact currency :=
  ⟨Money.exact_zero currency, Money.exact_zero currency, Money.exact_zero currency⟩

@[simp]
theorem parts_zero (currency : Currency) : (zero currency).parts = 0 := by
  ext <;> exact Money.ticks_zero currency

theorem exact_ofPay {currency : Currency} {pay : Money} (exact : pay.Exact currency) :
    (ofPay pay).Exact currency := by
  obtain ⟨rfl, grid⟩ := exact
  exact ⟨⟨rfl, grid⟩, Money.exact_zero _, Money.exact_zero _⟩

@[simp]
theorem parts_ofPay (pay : Money) : (ofPay pay).parts = Parts.ofPay pay.ticks := by
  ext
  · rfl
  · exact Money.ticks_zero _
  · exact Money.ticks_zero _

theorem Exact.currency_eq {currency : Currency} {amounts : Amounts}
    (exact : amounts.Exact currency) : amounts.currency = currency :=
  exact.pay.currency_eq

theorem Exact.withZeroPay {currency : Currency} {amounts : Amounts}
    (exact : amounts.Exact currency) : amounts.withZeroPay.Exact currency :=
  ⟨exact.currency_eq ▸ Money.exact_zero _, exact.discount, exact.writeOff⟩

theorem parts_withZeroPay (amounts : Amounts) :
    amounts.withZeroPay.parts = { amounts.parts with pay := 0 } := by
  ext
  · exact Money.ticks_zero _
  · rfl
  · rfl

theorem isZero_iff (amounts : Amounts) : amounts.isZero = true ↔ amounts.parts = 0 := by
  simp only [isZero, Bool.and_eq_true, Money.isZero_iff, Parts.ext_iff, pay_parts,
    discount_parts, writeOff_parts, Parts.pay_zero, Parts.discount_zero, Parts.writeOff_zero,
    and_assoc]

/-- Another pay amount in the same currency takes the place of the old one. -/
theorem withPay_gives {currency : Currency} {amounts : Amounts} {pay : Money}
    (exact : amounts.Exact currency) (pay_exact : pay.Exact currency) :
    Gives currency { amounts.parts with pay := pay.ticks } (amounts.withPay pay) := by
  have same : pay.currency = amounts.currency :=
    pay_exact.currency_eq.trans exact.currency_eq.symm
  exact ⟨{ amounts with pay }, if_pos same, ⟨pay_exact, exact.discount, exact.writeOff⟩, rfl⟩

/-- The total of exact amounts is exact while what is added up on the way to it is small. -/
theorem total_gives_of_small {currency : Currency} {amounts : Amounts}
    (exact : amounts.Exact currency)
    (front_small : (amounts.parts.pay + amounts.parts.discount).natAbs < coefficientLimit)
    (small : amounts.parts.total.natAbs < coefficientLimit) :
    Money.Gives currency amounts.parts.total amounts.total := by
  obtain ⟨paid, paid_eq, paid_exact, paid_ticks⟩ :=
    Money.add_gives exact.pay exact.discount front_small
  have sum := Money.add_gives paid_exact exact.writeOff (by rwa [paid_ticks])
  rw [paid_ticks] at sum
  rw [total, paid_eq]
  exact sum

theorem total_gives {currency : Currency} {amounts : Amounts} (exact : amounts.Exact currency)
    (small : amounts.parts.magnitude < coefficientLimit) :
    Money.Gives currency amounts.parts.total amounts.total := by
  have total_le := amounts.parts.natAbs_total_le
  apply total_gives_of_small exact
  · unfold Parts.magnitude at small
    omega
  · omega

theorem combine_eq_ok {left right : Amounts} {operation : Money → Money → Except Fault Money}
    {pay discount writeOff : Money} (pay_eq : operation left.pay right.pay = .ok pay)
    (discount_eq : operation left.discount right.discount = .ok discount)
    (writeOff_eq : operation left.writeOff right.writeOff = .ok writeOff) :
    combine operation left right = .ok ⟨pay, discount, writeOff⟩ := by
  simp only [combine, pay_eq, discount_eq, writeOff_eq]
  rfl

/-- Amounts are combined as each of their parts is. -/
theorem combine_gives {currency : Currency} {parts : Parts} {left right : Amounts}
    {operation : Money → Money → Except Fault Money}
    (pay : Money.Gives currency parts.pay (operation left.pay right.pay))
    (discount : Money.Gives currency parts.discount (operation left.discount right.discount))
    (writeOff : Money.Gives currency parts.writeOff (operation left.writeOff right.writeOff)) :
    Gives currency parts (combine operation left right) := by
  obtain ⟨pay, pay_eq, pay_exact, pay_ticks⟩ := pay
  obtain ⟨discount, discount_eq, discount_exact, discount_ticks⟩ := discount
  obtain ⟨writeOff, writeOff_eq, writeOff_exact, writeOff_ticks⟩ := writeOff
  exact ⟨⟨pay, discount, writeOff⟩, combine_eq_ok pay_eq discount_eq writeOff_eq,
    ⟨pay_exact, discount_exact, writeOff_exact⟩, Parts.ext pay_ticks discount_ticks writeOff_ticks⟩

/-- Exact amounts are added part by part while every part of the result is small. -/
theorem add_gives_of_small {currency : Currency} {left right : Amounts}
    (left_exact : left.Exact currency) (right_exact : right.Exact currency)
    (small : (left.parts + right.parts).Small) :
    Gives currency (left.parts + right.parts) (left.add right) :=
  combine_gives (Money.add_gives left_exact.pay right_exact.pay small.pay)
    (Money.add_gives left_exact.discount right_exact.discount small.discount)
    (Money.add_gives left_exact.writeOff right_exact.writeOff small.writeOff)

theorem add_gives {currency : Currency} {left right : Amounts} (left_exact : left.Exact currency)
    (right_exact : right.Exact currency)
    (small : (left.parts + right.parts).magnitude < coefficientLimit) :
    Gives currency (left.parts + right.parts) (left.add right) :=
  add_gives_of_small left_exact right_exact (.of_magnitude small)

/-- Exact amounts are subtracted part by part while every part of the result is small. -/
theorem sub_gives_of_small {currency : Currency} {left right : Amounts}
    (left_exact : left.Exact currency) (right_exact : right.Exact currency)
    (small : (left.parts - right.parts).Small) :
    Gives currency (left.parts - right.parts) (left.sub right) :=
  combine_gives (Money.sub_gives left_exact.pay right_exact.pay small.pay)
    (Money.sub_gives left_exact.discount right_exact.discount small.discount)
    (Money.sub_gives left_exact.writeOff right_exact.writeOff small.writeOff)

theorem sub_gives {currency : Currency} {left right : Amounts} (left_exact : left.Exact currency)
    (right_exact : right.Exact currency)
    (small : (left.parts - right.parts).magnitude < coefficientLimit) :
    Gives currency (left.parts - right.parts) (left.sub right) :=
  sub_gives_of_small left_exact right_exact (.of_magnitude small)

/-- What is left to pay becomes discount. -/
theorem payToDiscount_gives {currency : Currency} {amounts : Amounts}
    (exact : amounts.Exact currency)
    (small : (amounts.parts.discount + amounts.parts.pay).natAbs < coefficientLimit) :
    Gives currency ⟨0, amounts.parts.discount + amounts.parts.pay, amounts.parts.writeOff⟩
      amounts.payToDiscount := by
  obtain ⟨discount, discount_eq, discount_exact, discount_ticks⟩ :=
    Money.add_gives exact.discount exact.pay small
  refine ⟨{ amounts.withZeroPay with discount }, ?_,
    ⟨exact.withZeroPay.pay, discount_exact, exact.writeOff⟩, ?_⟩
  · simp only [payToDiscount, discount_eq]
    rfl
  · exact Parts.ext (Money.ticks_zero _) discount_ticks rfl

/-- What is left to pay is written off. -/
theorem payToWriteOff_gives {currency : Currency} {amounts : Amounts}
    (exact : amounts.Exact currency)
    (small : (amounts.parts.writeOff + amounts.parts.pay).natAbs < coefficientLimit) :
    Gives currency ⟨0, amounts.parts.discount, amounts.parts.writeOff + amounts.parts.pay⟩
      amounts.payToWriteOff := by
  obtain ⟨writeOff, writeOff_eq, writeOff_exact, writeOff_ticks⟩ :=
    Money.add_gives exact.writeOff exact.pay small
  refine ⟨{ amounts.withZeroPay with writeOff }, ?_,
    ⟨exact.withZeroPay.pay, exact.discount, writeOff_exact⟩, ?_⟩
  · simp only [payToWriteOff, writeOff_eq]
    rfl
  · exact Parts.ext (Money.ticks_zero _) rfl writeOff_ticks

end Amounts
end Settlement
