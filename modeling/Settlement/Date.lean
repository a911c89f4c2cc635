import Settlement.Blank
import Settlement.Digits

/-!
# Calendar dates

Days of the Gregorian calendar, carried on beyond its introduction in both directions.  A date is
written as year, month and day with hyphens between them; years of more than four digits and years
before year zero carry a sign.  The reader also takes fewer digits, a sign in front of any year
and blanks around the numbers.
-/

namespace Settlement

/-- Whether a year has a 29th of February. -/
def isLeapYear (year : Int) : Bool :=
  year % 4 == 0 && (year % 100 != 0 || year % 400 == 0)

/-- How many days a month has. -/
def daysInMonth (year : Int) (month : Nat) : Nat :=
  if month = 2 then
    if isLeapYear year then 29 else 28
  else if month = 4 ∨ month = 6 ∨ month = 9 ∨ month = 11 then 30
  else 31

/-- The first year of the calendar. -/
def firstYear : Int := -262143

/-- The last year of the calendar. -/
def lastYear : Int := 262142

/-- The calendar has a day. -/
def IsDay (year : Int) (month day : Nat) : Prop :=
  firstYear ≤ year ∧ year ≤ lastYear ∧ 1 ≤ month ∧ month ≤ 12 ∧
    1 ≤ day ∧ day ≤ daysInMonth year month

instance (year : Int) (month day : Nat) : Decidable (IsDay year month day) :=
  inferInstanceAs (Decidable (_ ∧ _))

/-- A day of the calendar. -/
structure Date where
  /-- The year; the one before year one is year zero. -/
  year : Int
  /-- The month, from one. -/
  month : Nat
  /-- The day of the month, from one. -/
  day : Nat
  /-- The calendar has such a day. -/
  isDay : IsDay year month day
  deriving DecidableEq, Repr

namespace Date

/-- The day with a year, month and day, where the calendar has it. -/
def of? (year : Int) (month day : Nat) : Option Date :=
  if valid : IsDay year month day then some ⟨year, month, day, valid⟩ else none

/-! ## Writing -/

/-- The digits of a number, with zeros in front up to four. -/
def fourDigits (number : Nat) : List Char :=
  if number < 10000 then fixedDigits 10 4 number else Nat.toDigits 10 number

/-- A year: four digits, or a sign and at least four digits. -/
def yearChars (year : Int) : List Char :=
  if year < 0 then '-' :: fourDigits year.natAbs
  else if year < 10000 then fourDigits year.natAbs
  else '+' :: fourDigits year.natAbs

/-- The year, two digits of the month and two of the day, divided by hyphens. -/
def toChars (date : Date) : List Char :=
  yearChars date.year ++ '-' :: fixedDigits 10 2 date.month ++ '-' :: fixedDigits 10 2 date.day

/-- The date as text. -/
def toText (date : Date) : String := String.ofList date.toChars

/-! ## Reading -/

/-- Reads the digits at the front, at least one and at most `count`, and gives the number and
what stands behind it. -/
def takeNumber? (count : Nat) (chars : List Char) : Option (Nat × List Char) :=
  let digits := (chars.take count).takeWhile Char.isDigit
  if digits = [] then
    none
  else
    (ofDigits? 10 digits).map fun number => (number, chars.drop digits.length)

/-- Reads a year at the front: at most four digits, or any count of them behind a sign. -/
def takeYear? : List Char → Option (Int × List Char)
  | '-' :: chars => (takeNumber? chars.length chars).map fun (year, rest) => (-(year : Int), rest)
  | '+' :: chars => (takeNumber? chars.length chars).map fun (year, rest) => ((year : Int), rest)
  | chars => (takeNumber? 4 chars).map fun (year, rest) => ((year : Int), rest)

/-- Reads a hyphen, and a number of at most two digits behind it. -/
def takePart? (chars : List Char) : Option (Nat × List Char) :=
  match skipBlanks chars with
  | '-' :: rest => takeNumber? 2 (skipBlanks rest)
  | _ => none

/-- Reads a date, with blanks around its numbers. -/
def ofChars? (chars : List Char) : Option Date := do
  let (year, rest) ← takeYear? (skipBlanks chars)
  let (month, rest) ← takePart? rest
  let (day, rest) ← takePart? rest
  if skipBlanks rest = [] then of? year month day else none

/-- Reads a date from text. -/
def ofText? (text : String) : Option Date := ofChars? text.toList

end Date
end Settlement
