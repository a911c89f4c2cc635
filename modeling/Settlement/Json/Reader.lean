import Settlement.Blank
import Settlement.Json.Basic

/-!
# Reading JSON

The JSON value that a text stands for.  Whole numbers of 64 bits, signed or not, are held exactly
and all other numbers as doubles.  The fields of an object are put in the order of their names, and
of several with one name the last one counts.  Arrays and objects may be nested 127 deep.

Each reader takes its part from the front of the text and gives what stands behind it.
-/

namespace Settlement
namespace JsonValue

/-! ## Strings -/

/-- A character that stands for itself inside a string. -/
def isPlain (char : Char) : Bool := char != '"' && char != '\\' && 32 ≤ char.toNat

/-- Reads four hexadecimal digits. -/
def takeUnit? (chars : List Char) : Option (Nat × List Char) :=
  let digits := chars.take 4
  if digits.length = 4 then
    (ofDigits? 16 digits).map fun unit => (unit, chars.drop 4)
  else
    none

/-- Reads the second of two units, behind its escape. -/
def takeLowUnit? : List Char → Option (Nat × List Char)
  | '\\' :: 'u' :: chars =>
      (takeUnit? chars).bind fun (unit, rest) =>
        if 0xDC00 ≤ unit ∧ unit < 0xE000 then some (unit - 0xDC00, rest) else none
  | _ => none

/-- Reads a character that is given by its units of sixteen bits: one unit, or two for characters
that one does not reach. -/
def takeUnits? (chars : List Char) : Option (Char × List Char) := do
  let (unit, rest) ← takeUnit? chars
  if 0xD800 ≤ unit ∧ unit < 0xDC00 then
    let (low, rest) ← takeLowUnit? rest
    return (Char.ofNat (0x10000 + (unit - 0xD800) * 0x400 + low), rest)
  else if 0xDC00 ≤ unit ∧ unit < 0xE000 then
    none
  else
    return (Char.ofNat unit, rest)

/-- Reads the character of an escape, behind its backslash. -/
def takeEscape? : List Char → Option (Char × List Char)
  | '"' :: rest => some ('"', rest)
  | '\\' :: rest => some ('\\', rest)
  | '/' :: rest => some ('/', rest)
  | 'b' :: rest => some ('\x08', rest)
  | 'f' :: rest => some ('\x0c', rest)
  | 'n' :: rest => some ('\n', rest)
  | 'r' :: rest => some ('\r', rest)
  | 't' :: rest => some ('\t', rest)
  | 'u' :: rest => takeUnits? rest
  | _ => none

/-- Reads a string behind its opening quote, with at most so many escapes. -/
def takeString? (escapes : Nat) (chars : List Char) : Option (List Char × List Char) :=
  let plain := chars.takeWhile isPlain
  match escapes, chars.dropWhile isPlain with
  | _, '"' :: rest => some (plain, rest)
  | escapes + 1, '\\' :: rest => do
      let (char, rest) ← takeEscape? rest
      let (others, rest) ← takeString? escapes rest
      return (plain ++ char :: others, rest)
  | _, _ => none

/-! ## Numbers -/

/-- Reads digits, at least one. -/
def takeDigits? (chars : List Char) : Option (List Char × List Char) :=
  let digits := chars.takeWhile Char.isDigit
  if digits = [] then none else some (digits, chars.dropWhile Char.isDigit)

/-- Reads the digits before the point, of which the first is no zero unless it is the only one. -/
def takeWhole? (chars : List Char) : Option (List Char × List Char) :=
  (takeDigits? chars).bind fun (digits, rest) =>
    if digits.head? = some '0' ∧ digits ≠ ['0'] then none else some (digits, rest)

/-- Reads a point and the digits behind it, where there is a point. -/
def takeFraction? : List Char → Option (Option (List Char) × List Char)
  | '.' :: rest => (takeDigits? rest).map fun (digits, rest) => (some digits, rest)
  | rest => some (none, rest)

/-- Reads an exponent behind its mark: an optional sign and digits. -/
def takeSize? : List Char → Option (Int × List Char)
  | '-' :: rest =>
      (takeDigits? rest).map fun (digits, rest) => (-(Nat.ofDigitChars 10 digits 0 : Int), rest)
  | '+' :: rest =>
      (takeDigits? rest).map fun (digits, rest) => ((Nat.ofDigitChars 10 digits 0 : Int), rest)
  | rest =>
      (takeDigits? rest).map fun (digits, rest) => ((Nat.ofDigitChars 10 digits 0 : Int), rest)

/-- Reads an exponent, where there is an exponent mark. -/
def takeExponent? : List Char → Option (Option Int × List Char)
  | 'e' :: rest => (takeSize? rest).map fun (exponent, rest) => (some exponent, rest)
  | 'E' :: rest => (takeSize? rest).map fun (exponent, rest) => (some exponent, rest)
  | rest => some (none, rest)

/-- The number `digits * 10 ^ exponent` in double precision. -/
def ofReal? (negative : Bool) (digits : List Char) (exponent : Int) : Option JsonValue :=
  (Double.ofDigits? (Nat.ofDigitChars 10 digits 0) exponent).map (double negative)

/-- The number for digits without point and exponent.  What does not fit 64 bits, and zero with a
minus sign, is held in double precision. -/
def ofWhole? (negative : Bool) (digits : List Char) : Option JsonValue :=
  let size := Nat.ofDigitChars 10 digits 0
  if negative then
    if 0 < size ∧ size ≤ 0x8000000000000000 then
      some (integer (-size))
    else
      ofReal? negative digits 0
  else
    if size < 0x10000000000000000 then some (integer size) else ofReal? negative digits 0

/-- Reads a number. -/
def takeNumber? (chars : List Char) : Option (JsonValue × List Char) := do
  let (negative, unsigned) := match chars with
    | '-' :: rest => (true, rest)
    | rest => (false, rest)
  let (whole, rest) ← takeWhole? unsigned
  let (fraction, rest) ← takeFraction? rest
  let (exponent, rest) ← takeExponent? rest
  match fraction, exponent with
  | none, none => (ofWhole? negative whole).map fun number => (number, rest)
  | _, _ =>
      let behind := fraction.getD []
      (ofReal? negative (whole ++ behind) (exponent.getD 0 - behind.length)).map fun number =>
        (number, rest)

/-! ## Arrays and objects -/

/-- Reads items divided by commas up to a closing character, at least one and at most so many. -/
def takeItems? {α : Type} (item : List Char → Option (α × List Char)) (close : Char) :
    (most : Nat) → List Char → Option (List α × List Char)
  | 0, _ => none
  | most + 1, chars => do
      let (first, rest) ← item chars
      match skipSpaces rest with
      | [] => none
      | char :: rest =>
          if char = close then
            return ([first], rest)
          else if char = ',' then
            let (others, rest) ← takeItems? item close most rest
            return (first :: others, rest)
          else
            none

/-- Reads the items between an opening and a closing character; there may be none. -/
def takeGroup? {α : Type} (item : List Char → Option (α × List Char)) (close : Char)
    (most : Nat) (chars : List Char) : Option (List α × List Char) :=
  match skipSpaces chars with
  | [] => none
  | char :: rest => if char = close then some ([], rest) else takeItems? item close most chars

/-- Reads a name, a colon and a value. -/
def takeField? (value : List Char → Option (JsonValue × List Char)) (escapes : Nat)
    (chars : List Char) : Option ((String × JsonValue) × List Char) :=
  match skipSpaces chars with
  | '"' :: rest => do
      let (name, rest) ← takeString? escapes rest
      match skipSpaces rest with
      | ':' :: rest => (value rest).map fun (value, rest) => ((String.ofList name, value), rest)
      | _ => none
  | _ => none

/-- Puts a field in its place in the order of names. -/
def putField (name : String) (value : JsonValue) :
    List (String × JsonValue) → List (String × JsonValue)
  | [] => [(name, value)]
  | (other, old) :: rest =>
      if name = other then (name, value) :: rest
      else if name < other then (name, value) :: (other, old) :: rest
      else (other, old) :: putField name value rest

/-- The object with fields as they are written. -/
def ofFields (fields : List (String × JsonValue)) : JsonValue :=
  object (fields.foldl (fun sorted (name, value) => putField name value sorted) [])

/-! ## Values -/

/-- Reads a value without parts. -/
def takeAtom? (escapes : Nat) : List Char → Option (JsonValue × List Char)
  | 'n' :: 'u' :: 'l' :: 'l' :: rest => some (null, rest)
  | 't' :: 'r' :: 'u' :: 'e' :: rest => some (bool true, rest)
  | 'f' :: 'a' :: 'l' :: 's' :: 'e' :: rest => some (bool false, rest)
  | '"' :: rest =>
      (takeString? escapes rest).map fun (chars, rest) => (string (String.ofList chars), rest)
  | chars => takeNumber? chars

/-- Reads a value whose parts are nested at most so deep; `most` bounds how many items a group has
and how many escapes a string has. -/
def takeValue? (most : Nat) : (depth : Nat) → List Char → Option (JsonValue × List Char)
  | 0, chars => takeAtom? most (skipSpaces chars)
  | depth + 1, chars =>
      match skipSpaces chars with
      | '[' :: rest =>
          (takeGroup? (takeValue? most depth) ']' most rest).map fun (items, rest) =>
            (array items, rest)
      | '\x7b' :: rest =>
          (takeGroup? (takeField? (takeValue? most depth) most) '\x7d' most rest).map
            fun (fields, rest) => (ofFields fields, rest)
      | rest => takeAtom? most rest

/-- Reads a value and nothing else. -/
def ofText? (text : String) : Option JsonValue :=
  let chars := text.toList
  (takeValue? chars.length 127 chars).bind fun (value, rest) =>
    if skipSpaces rest = [] then some value else none

end JsonValue
end Settlement
