import Settlement.Digits

/-!
# Universally unique identifiers

A value of 128 bits with four text forms: hyphenated groups, plain digits, hyphenated in braces,
and hyphenated as a URN.  Reading takes hexadecimal digits of either case, writing gives the
hyphenated form in small ones.
-/

namespace Settlement

/-- A value of 128 bits. -/
structure Uuid where
  /-- The bits, as one number. -/
  bits : BitVec 128
  deriving DecidableEq, Repr

namespace Uuid

/-- The identifier with a number. -/
def ofNat (number : Nat) : Uuid := ⟨BitVec.ofNat 128 number⟩

/-- The 32 hexadecimal digits. -/
def hexDigits (uuid : Uuid) : List Char := fixedDigits 16 32 uuid.bits.toNat

/-- Hyphens divide the digits into groups of 8, 4, 4, 4 and 12. -/
def hyphenate (digits : List Char) : List Char :=
  digits.take 8 ++ '-' :: (digits.drop 8).take 4 ++ '-' :: (digits.drop 12).take 4 ++
    '-' :: (digits.drop 16).take 4 ++ '-' :: digits.drop 20

/-- The digits of the groups, where the hyphens stand as `hyphenate` puts them. -/
def ungroup? (chars : List Char) : Option (List Char) :=
  let digits := chars.take 8 ++ (chars.drop 9).take 4 ++ (chars.drop 14).take 4 ++
    (chars.drop 19).take 4 ++ chars.drop 24
  if hyphenate digits = chars then some digits else none

/-- What stands between braces. -/
def unbrace? : List Char → Option (List Char)
  | '{' :: rest => if rest.getLast? = some '}' then some rest.dropLast else none
  | _ => none

/-- What stands behind `urn:uuid:`, whose letters may be of either case. -/
def unurn? (chars : List Char) : Option (List Char) :=
  if (chars.take 9).map Char.toLower = "urn:uuid:".toList then some (chars.drop 9) else none

/-- The digits of any of the four forms. -/
def formDigits? (chars : List Char) : Option (List Char) :=
  if chars.length = 32 then
    some chars
  else
    (ungroup? chars <|> (unbrace? chars).bind ungroup?) <|> (unurn? chars).bind ungroup?

/-- Reads 32 hexadecimal digits. -/
def ofHexDigits? (digits : List Char) : Option Uuid :=
  if digits.length = 32 then (ofDigits? 16 digits).map ofNat else none

/-- Reads any of the four forms. -/
def ofChars? (chars : List Char) : Option Uuid := (formDigits? chars).bind ofHexDigits?

/-- The hyphenated form. -/
def toChars (uuid : Uuid) : List Char := hyphenate uuid.hexDigits

/-- The hyphenated form as text. -/
def toText (uuid : Uuid) : String := String.ofList uuid.toChars

/-- Reads any of the four forms from text. -/
def ofText? (text : String) : Option Uuid := ofChars? text.toList

/-- The version field: the upper four bits of the seventh byte. -/
def version (uuid : Uuid) : Nat := (uuid.bits.extractLsb' 76 4).toNat

/-- Sets the version field and the two variant bits. -/
def stamped (version : BitVec 4) (bits : BitVec 128) : Uuid :=
  ⟨bits.extractLsb' 80 48 ++ version ++ bits.extractLsb' 64 12 ++ 0b10#2 ++ bits.extractLsb' 0 62⟩

/-- A random identifier, from 122 of the given bits. -/
def random (bits : BitVec 128) : Uuid := stamped 4 bits

/-- A time-ordered identifier: a moment in milliseconds, then a serial number. -/
def timeOrdered (millisecond : BitVec 48) (serial : BitVec 62) : Uuid :=
  stamped 7 (millisecond ++ 0#18 ++ serial)

end Uuid
end Settlement
