import Settlement.Digits
import Settlement.Decimal.Basic

/-!
# Decimals as text

The written form shows every fraction digit that the number carries, trailing zeros included,
and a minus sign also on zero.  The reader accepts an optional sign and digits with at most one
point, and underscores behind the first digit; a zero never keeps a minus sign, and fraction
digits that do not fit are rounded off.  A display with a fixed count of places cuts off what it
does not show.
-/

namespace Settlement
namespace Decimal

/-- The minus sign, where there is one. -/
def signChars (number : Decimal) : List Char :=
  if number.negative then ['-'] else []

/-- The digits before the point, at least one. -/
def wholeDigits (number : Decimal) : List Char :=
  Nat.toDigits 10 (number.coefficient / tenTo number.scale)

/-- The digits behind the point. -/
def fractionDigits (number : Decimal) : List Char :=
  fixedDigits 10 number.scale number.coefficient

/-- A point and the digits behind it; without digits there is no point. -/
def pointed : List Char → List Char
  | [] => []
  | digits => '.' :: digits

/-- The written form, character by character. -/
def toChars (number : Decimal) : List Char :=
  number.signChars ++ number.wholeDigits ++ pointed number.fractionDigits

/-- The written form: every fraction digit is shown. -/
def toText (number : Decimal) : String := String.ofList number.toChars

/-- The display with exactly `places` fraction digits: further ones are cut off, missing ones
are zeros, and the sign stands even where no digit but zero is left. -/
def toFixed (places : Nat) (number : Decimal) : String :=
  let shown := (number.fractionDigits ++ List.replicate places '0').take places
  String.ofList (number.signChars ++ number.wholeDigits ++ pointed shown)

/-- The sign in front of a number and what stands behind it. -/
def splitSign : List Char → Bool × List Char
  | '-' :: rest => (true, rest)
  | '+' :: rest => (false, rest)
  | unsigned => (false, unsigned)

/-- The decimal with a coefficient and scale, where they fit; zero keeps no minus sign. -/
def ofCoefficient? (negative : Bool) (coefficient scale : Nat) : Option Decimal :=
  if fits : coefficient < coefficientLimit ∧ scale ≤ 28 then
    some ⟨negative && coefficient != 0, coefficient, scale, fits.1, fits.2⟩
  else
    none

/-- The decimal that is left when a digit and what follows it are cut off.  From five on the
digit rounds up; where the coefficient outgrows its size by that, one more digit is given up. -/
def roundOff? (negative : Bool) (coefficient scale digit : Nat) : Option Decimal :=
  if digit < 5 then
    ofCoefficient? negative coefficient scale
  else if coefficient + 1 < coefficientLimit then
    ofCoefficient? negative (coefficient + 1) scale
  else if scale = 0 then
    none
  else
    ofCoefficient? negative ((coefficient + 5) / 10) (scale - 1)

/-- Reads a digit, or an underscore as nothing. -/
def digitOrGap? (char : Char) : Option (Option Nat) :=
  if char = '_' then some none else (decimalDigit? char).map some

/-- A coefficient below this limit is short: one more digit is sure to fit sixty-four bits. -/
def shortLimit : Nat := 1844674407370954906

/-- Puts the digits behind the point to a coefficient, passing over the gaps between them.  The
first digit that does not fit is rounded off, and so is the one behind the 28th; what stands behind
it counts for nothing.  A gap right behind the 28th digit ends the number where the coefficient was
short before that digit. -/
def ofFraction? (negative : Bool) :
    (coefficient scale : Nat) → List (Option Nat) → Option Decimal
  | coefficient, scale, [] => ofCoefficient? negative coefficient scale
  | coefficient, scale, none :: rest =>
      if 28 ≤ scale ∧ coefficient / 10 < shortLimit then
        ofCoefficient? negative coefficient scale
      else
        ofFraction? negative coefficient scale rest
  | coefficient, scale, some digit :: rest =>
      if coefficient * 10 + digit < coefficientLimit ∧ scale < 28 then
        ofFraction? negative (coefficient * 10 + digit) (scale + 1) rest
      else
        roundOff? negative coefficient scale digit

/-- Reads the digits on both sides of the point, of which there is at least one.  Those before
the point must fit.  Underscores may divide the digits into groups, but not come first. -/
def ofParts? (negative : Bool) (whole fraction : List Char) : Option Decimal :=
  match whole ++ fraction with
  | [] | '_' :: _ => none
  | _ => do
      let coefficient ← ofDigits? 10 (whole.filter (· != '_'))
      let marks ← fraction.mapM digitOrGap?
      ofFraction? negative coefficient 0 marks

/-- Reads an optional sign and digits with at most one point. -/
def ofChars? (chars : List Char) : Option Decimal :=
  let (negative, body) := splitSign chars
  ofParts? negative (body.takeWhile (· != '.')) ((body.dropWhile (· != '.')).drop 1)

/-- Reads a decimal from text. -/
def ofText? (text : String) : Option Decimal := ofChars? text.toList

end Decimal
end Settlement
