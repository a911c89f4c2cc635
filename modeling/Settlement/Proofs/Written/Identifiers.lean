import Mathlib.Data.List.Basic
import Settlement.Identifier

/-!
# Identifiers read back from their text

The bare value of an identifier is written as hexadecimal digits in five groups.  The reader takes
the hyphens out where they were put in, and the digits reach as far as the 128 bits do.
-/

namespace Settlement
namespace Uuid

theorem length_hexDigits (uuid : Uuid) : uuid.hexDigits.length = 32 := length_fixedDigits _ _ _

theorem length_hyphenate (digits : List Char) :
    (hyphenate digits).length = digits.length + 4 := by
  simp only [hyphenate, List.length_append, List.length_cons, List.length_take, List.length_drop]
  omega

theorem take_append_drop_drop (digits : List Char) (start count : Nat) :
    (digits.drop start).take count ++ digits.drop (start + count) = digits.drop start := by
  rw [← List.drop_drop, List.take_append_drop]

theorem append_groups (digits : List Char) :
    digits.take 8 ++ ((digits.drop 8).take 4 ++ ((digits.drop 12).take 4 ++
      ((digits.drop 16).take 4 ++ digits.drop 20))) = digits := by
  rw [take_append_drop_drop digits 16 4, take_append_drop_drop digits 12 4,
    take_append_drop_drop digits 8 4, List.take_append_drop]

/-- The groups without the hyphens between them are the digits. -/
theorem ungroup?_hyphenate {digits : List Char} (length_eq : digits.length = 32) :
    ungroup? (hyphenate digits) = some digits := by
  have groups : (hyphenate digits).take 8 ++ ((hyphenate digits).drop 9).take 4 ++
      ((hyphenate digits).drop 14).take 4 ++ ((hyphenate digits).drop 19).take 4 ++
      (hyphenate digits).drop 24 = digits := by
    simp [hyphenate, List.drop_append, List.drop_take, length_eq, append_groups]
  rw [ungroup?]
  simp only [groups, if_true]

theorem formDigits?_toChars (uuid : Uuid) : formDigits? uuid.toChars = some uuid.hexDigits := by
  have long : uuid.toChars.length ≠ 32 := by
    rw [toChars, length_hyphenate, length_hexDigits]
    decide
  rw [formDigits?, if_neg long, toChars, ungroup?_hyphenate (length_hexDigits uuid)]
  rfl

theorem ofHexDigits?_hexDigits (uuid : Uuid) : ofHexDigits? uuid.hexDigits = some uuid := by
  have reached : uuid.bits.toNat % Nat.pow 16 32 = uuid.bits.toNat :=
    Nat.mod_eq_of_lt uuid.bits.isLt
  rw [ofHexDigits?, if_pos (length_hexDigits uuid), hexDigits,
    ofDigits?_fixedDigits (by decide) (by decide), reached, Option.map_some, ofNat,
    BitVec.ofNat_toNat, BitVec.setWidth_eq]

theorem ofChars?_toChars (uuid : Uuid) : ofChars? uuid.toChars = some uuid := by
  rw [ofChars?, formDigits?_toChars, Option.bind_some, ofHexDigits?_hexDigits]

/-- An identifier is read back from its hyphenated form. -/
theorem ofText?_toText (uuid : Uuid) : ofText? uuid.toText = some uuid := by
  rw [ofText?, toText, String.toList_ofList, ofChars?_toChars]

end Uuid
end Settlement
