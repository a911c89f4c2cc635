import Settlement.Decimal.Text

/-!
# Numbers of double precision

A double is a number of at most 53 binary digits times a power of two.  A decimal number becomes a
double in steps, each of which rounds, so the result need not be the nearest one.  A double is read
as the decimal with the fewest digits that no other double is nearer to.
-/

namespace Settlement

/-- A power of two. -/
def twoTo (exponent : Nat) : Nat := Nat.pow 2 exponent

/-- The number `significand * 2 ^ exponent`, without its sign. -/
structure Double where
  /-- The binary digits: 53 of them, or fewer at the least exponent. -/
  significand : Nat
  /-- The power of two, which is at least -1074. -/
  exponent : Int
  deriving DecidableEq, Repr

namespace Double

/-- The least significand of 53 binary digits. -/
def leastFull : Nat := twoTo 52

/-- Powers of two that a positive exponent puts above the line. -/
def above (exponent : Int) : Nat := twoTo exponent.toNat

/-- Powers of two that a negative exponent puts below the line. -/
def below (exponent : Int) : Nat := twoTo (-exponent).toNat

/-- The exponent at which a positive quotient has 53 binary digits before the point, or the least
exponent there is. -/
def exponentOf (numerator denominator : Nat) : Int :=
  let estimate : Int := (numerator.log2 : Int) - denominator.log2 - 52
  let short := numerator * below estimate < leastFull * denominator * above estimate
  max (-1074) (if short then estimate - 1 else estimate)

/-- The double nearest to a quotient; a half goes to the even neighbour. -/
def nearest (numerator denominator : Nat) : Double :=
  if numerator = 0 then
    ⟨0, -1074⟩
  else
    let exponent := exponentOf numerator denominator
    let rounded := roundHalfEven (numerator * below exponent) (denominator * above exponent)
    if rounded = twoTo 53 then ⟨leastFull, exponent + 1⟩ else ⟨rounded, exponent⟩

/-- The numerator of the number as a quotient. -/
def numerator (number : Double) : Nat := number.significand * above number.exponent

/-- The denominator of the number as a quotient. -/
def denominator (number : Double) : Nat := below number.exponent

/-- The double nearest to a product. -/
def times (left right : Double) : Double :=
  nearest (left.numerator * right.numerator) (left.denominator * right.denominator)

/-- The double nearest to a quotient of doubles. -/
def dividedBy (left right : Double) : Double :=
  nearest (left.numerator * right.denominator) (left.denominator * right.numerator)

/-- The digits at the front that fit 64 bits, and how many are left out behind them. -/
def leadingDigits (digits : Nat) : Nat × Nat :=
  if digits < 0x10000000000000000 then
    (digits, 0)
  else
    let (leading, dropped) := leadingDigits (digits / 10)
    (leading, dropped + 1)
termination_by digits
decreasing_by omega

/-- The double nearest to a power of ten. -/
def powerOfTen (exponent : Nat) : Double := nearest (tenTo exponent) 1

/-- A double times a power of ten, or over one where the exponent is negative.  A power that no
double reaches is divided out in two parts. -/
def scale (front : Double) (exponent : Int) : Double :=
  if 0 ≤ exponent then
    front.times (powerOfTen exponent.toNat)
  else if -308 ≤ exponent then
    front.dividedBy (powerOfTen exponent.natAbs)
  else
    (front.dividedBy (powerOfTen 308)).dividedBy (powerOfTen (min (exponent.natAbs - 308) 308))

/-- The double that holds `digits * 10 ^ exponent`: the digits at the front that fit 64 bits,
times or over the power of ten that remains, each of them and their result rounded to a double.
Powers above 308, and numbers above the greatest double, do not exist. -/
def ofDigits? (digits : Nat) (exponent : Int) : Option Double :=
  let (leading, dropped) := leadingDigits digits
  if leading = 0 then
    some (nearest 0 1)
  else if 308 < exponent + dropped then
    none
  else
    let number := (nearest leading 1).scale (exponent + dropped)
    if number.exponent ≤ 971 then some number else none

/-- Whether a quotient is read as a double.  The numbers nearest to a double reach halfway to its
neighbours; the neighbour below is half as far away where the binary digits begin anew. -/
def isReadAs (number : Double) (numerator denominator : Nat) : Bool :=
  let narrow := number.significand == leastFull && -1074 < number.exponent
  let lower := 4 * number.significand - (if narrow then 1 else 2)
  let upper := 4 * number.significand + 2
  let quarter := number.exponent - 2
  let place := numerator * below quarter
  let least := lower * above quarter * denominator
  let greatest := upper * above quarter * denominator
  if number.significand % 2 = 0 then
    least ≤ place && place ≤ greatest
  else
    least < place && place < greatest

/-- Of the two multiples of a power of ten around a double, the nearer one of those that are read
as it; where both are as near, the greater one. -/
def multiple? (number : Double) (tens : Int) : Option (Nat × Int) :=
  let up := tenTo tens.toNat
  let down := tenTo (-tens).toNat
  let isRead (digits : Nat) := number.isReadAs (digits * up) down
  let scaled := number.numerator * down
  let unit := number.denominator * up
  let floor := scaled / unit
  if isRead (floor + 1) && (2 * (scaled % unit) ≥ unit || !isRead floor) then
    some (floor + 1, tens)
  else if isRead floor then
    some (floor, tens)
  else
    none

/-- All digits of a double, and the power of ten that they count. -/
def allDigits (number : Double) : Nat × Int :=
  if 0 ≤ number.exponent then
    (number.numerator, 0)
  else
    (number.significand * Nat.pow 5 number.exponent.natAbs, number.exponent)

/-- The fewest digits that are read as a double, and the power of ten that they count. -/
def shortest (number : Double) : Nat × Int :=
  if number.significand = 0 then
    (0, 0)
  else
    ((List.range 640).findSome? fun (step : Nat) => number.multiple? (310 - step)).getD
      number.allDigits

end Double

namespace Decimal

/-- Reads the shortest digits of a double. -/
def ofDouble? (negative : Bool) (number : Double) : Option Decimal :=
  let (digits, tens) := number.shortest
  let places := (-tens).toNat
  let whole := digits * tenTo tens.toNat / tenTo places
  ofParts? negative (Nat.toDigits 10 whole) (fixedDigits 10 places digits)

end Decimal
end Settlement
