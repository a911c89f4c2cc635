/-!
# Digit strings

Numbers written with a fixed count of digits in a base up to sixteen, and the number that a
string of digits stands for.  Reading takes letters of either case, writing gives small ones.
The main statement says that reading what was written gives the number back, as far as the
digits reach.  What stands before an exponent mark is told apart from what stands behind it.
-/

namespace Settlement

/-- The last `count` digits of a number, the most significant one first. -/
def fixedDigits (base : Nat) : Nat → Nat → List Char
  | 0, _ => []
  | count + 1, number => fixedDigits base count (number / base) ++ [Nat.digitChar (number % base)]

/-- What a digit counts, up to fifteen. -/
def digitValue? (digit : Char) : Option Nat :=
  if '0' ≤ digit ∧ digit ≤ '9' then some (digit.toNat - '0'.toNat)
  else if 'a' ≤ digit ∧ digit ≤ 'f' then some (digit.toNat - 'a'.toNat + 10)
  else if 'A' ≤ digit ∧ digit ≤ 'F' then some (digit.toNat - 'A'.toNat + 10)
  else none

/-- The number after one more digit. -/
def appendDigit? (base number : Nat) (digit : Char) : Option Nat :=
  (digitValue? digit).bind fun value =>
    if value < base then some (number * base + value) else none

/-- The number that a string of digits stands for; no digits stand for zero. -/
def ofDigits? (base : Nat) (digits : List Char) : Option Nat :=
  digits.foldlM (appendDigit? base) 0

/-- What a digit of base ten counts. -/
def decimalDigit? (digit : Char) : Option Nat := (digitValue? digit).filter (· < 10)

/-- What stands before the first exponent mark, and what stands behind it where there is one. -/
def splitExponent (chars : List Char) : List Char × Option (List Char) :=
  let before := chars.takeWhile fun char => char != 'e' && char != 'E'
  match chars.dropWhile fun char => char != 'e' && char != 'E' with
  | _ :: behind => (before, some behind)
  | [] => (before, none)

@[simp]
theorem length_fixedDigits (base count number : Nat) :
    (fixedDigits base count number).length = count := by
  induction count generalizing number with
  | zero => rfl
  | succ count ih => simp [fixedDigits, ih]

theorem digitValue?_digitChar {value : Nat} (small : value < 16) :
    digitValue? (Nat.digitChar value) = some value := by
  revert value
  decide

theorem appendDigit?_digitChar {base value : Nat} (number : Nat) (small : value < base)
    (base_le : base ≤ 16) :
    appendDigit? base number (Nat.digitChar value) = some (number * base + value) := by
  simp [appendDigit?, digitValue?_digitChar (Nat.lt_of_lt_of_le small base_le), small]

theorem ofDigits?_append (base : Nat) (front back : List Char) :
    ofDigits? base (front ++ back) =
      (ofDigits? base front).bind fun number => back.foldlM (appendDigit? base) number := by
  simp [ofDigits?, List.foldlM_append]

theorem ofDigits?_concat (base : Nat) (digits : List Char) (digit : Char) :
    ofDigits? base (digits ++ [digit]) =
      (ofDigits? base digits).bind fun number => appendDigit? base number digit := by
  simp [ofDigits?_append]

/-- Fixed digits that are read behind a number carry it on by the number that they show. -/
theorem foldlM_fixedDigits {base : Nat} (positive : 0 < base) (base_le : base ≤ 16)
    (count number start : Nat) :
    (fixedDigits base count number).foldlM (appendDigit? base) start =
      some (start * Nat.pow base count + number % Nat.pow base count) := by
  rw [Nat.pow_eq]
  induction count generalizing number with
  | zero => simp [fixedDigits, Nat.mod_one]
  | succ count ih =>
      have last := appendDigit?_digitChar
        (start * base ^ count + number / base % base ^ count) (Nat.mod_lt number positive) base_le
      rw [fixedDigits, List.foldlM_append, ih]
      simp only [Option.bind_eq_bind, Option.bind_some, List.foldlM_cons, last, List.foldlM_nil,
        Option.pure_def, Option.some.injEq]
      rw [Nat.pow_succ, Nat.mul_comm (base ^ count) base, Nat.mod_mul, Nat.add_mul, Nat.mul_assoc,
        Nat.mul_comm (base ^ count) base, Nat.mul_comm _ base]
      omega

/-- Reading fixed digits gives the number back, as far as they reach. -/
theorem ofDigits?_fixedDigits {base : Nat} (positive : 0 < base) (base_le : base ≤ 16)
    (count number : Nat) :
    ofDigits? base (fixedDigits base count number) = some (number % Nat.pow base count) := by
  rw [ofDigits?, foldlM_fixedDigits positive base_le, Nat.zero_mul, Nat.zero_add]

end Settlement
