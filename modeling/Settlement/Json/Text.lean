import Settlement.Digits
import Settlement.Json.Basic

/-!
# JSON as text

The text of a JSON value without blanks, its fields in the order in which they stand in the value.
Of the characters of a string only quotes, backslashes and control characters are escaped.
-/

namespace Settlement
namespace JsonValue

/-- A character inside a string. -/
def escape (char : Char) : List Char :=
  if char = '"' then ['\\', '"']
  else if char = '\\' then ['\\', '\\']
  else if char.toNat < 32 then '\\' :: 'u' :: fixedDigits 16 4 char.toNat
  else [char]

/-- A string between its quotes. -/
def quote (text : String) : List Char := '"' :: text.toList.flatMap escape ++ ['"']

/-- A whole number. -/
def integerChars (value : Int) : List Char :=
  (if value < 0 then ['-'] else []) ++ Nat.toDigits 10 value.natAbs

/-- A number in double precision: its shortest digits and an exponent. -/
def doubleChars (negative : Bool) (size : Double) : List Char :=
  let (digits, tens) := size.shortest
  (if negative then ['-'] else []) ++ Nat.toDigits 10 digits ++ 'e' :: integerChars tens

mutual

/-- The text of a value, character by character. -/
def toChars : JsonValue → List Char
  | null => ['n', 'u', 'l', 'l']
  | bool true => ['t', 'r', 'u', 'e']
  | bool false => ['f', 'a', 'l', 's', 'e']
  | integer value => integerChars value
  | double negative size => doubleChars negative size
  | string text => quote text
  | array [] => ['[', ']']
  | array (first :: rest) => '[' :: first.toChars ++ itemsTail rest ++ [']']
  | object [] => ['\x7b', '\x7d']
  | object ((name, value) :: rest) =>
      '\x7b' :: quote name ++ ':' :: value.toChars ++ fieldsTail rest ++ ['\x7d']

/-- The items behind the first one, each after a comma. -/
def itemsTail : List JsonValue → List Char
  | [] => []
  | first :: rest => ',' :: first.toChars ++ itemsTail rest

/-- The fields behind the first one, each after a comma. -/
def fieldsTail : List (String × JsonValue) → List Char
  | [] => []
  | (name, value) :: rest => ',' :: quote name ++ ':' :: value.toChars ++ fieldsTail rest

end

/-- The text of a value. -/
def toText (value : JsonValue) : String := String.ofList value.toChars

end JsonValue
end Settlement
