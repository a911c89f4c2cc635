import Settlement.Blank

/-!
# Paths of settings

The name of a setting is a path: a word, then any count of steps to a part of what the word
names.  A step is a point and a further word, or an index in brackets.
-/

namespace Settlement

/-- A step from a value to a part of it. -/
inductive PathStep where
  /-- To the part with a name. -/
  | child (name : String)
  /-- To the part at a place in order. -/
  | place (index : Int)
  deriving DecidableEq, Repr

/-- A word and the steps behind it. -/
structure SettingPath where
  /-- The setting. -/
  field : String
  /-- The steps to a part of it. -/
  steps : List PathStep
  deriving DecidableEq, Repr

namespace SettingPath

/-- The characters of words: letters, digits, underscores, hyphens and spaces. -/
def isWordChar (char : Char) : Bool := char.isAlphanum || char == '_' || char == '-' || char == ' '

/-- Reads a word at the front, and gives what stands behind it. -/
def takeWord? (chars : List Char) : Option (String × List Char) :=
  let word := chars.takeWhile isWordChar
  if word = [] then none else some (String.ofList word, chars.dropWhile isWordChar)

/-- Reads an index of 64 bits and the bracket that closes it. -/
def takeIndex? (chars : List Char) : Option (Int × List Char) :=
  let (negative, unsigned) := match chars with
    | '-' :: rest => (true, rest)
    | rest => (false, rest)
  let digits := unsigned.takeWhile Char.isDigit
  let size := Nat.ofDigitChars 10 digits 0
  let index : Int := if negative then -size else size
  match skipSpaces (unsigned.dropWhile Char.isDigit) with
  | ']' :: rest =>
      if digits ≠ [] ∧ -0x8000000000000000 ≤ index ∧ index < 0x8000000000000000 then
        some (index, rest)
      else
        none
  | _ => none

/-- Reads a step at the front. -/
def takeStep? : List Char → Option (PathStep × List Char)
  | '.' :: rest => (takeWord? rest).map fun (name, rest) => (.child name, rest)
  | '[' :: rest => (takeIndex? (skipSpaces rest)).map fun (index, rest) => (.place index, rest)
  | _ => none

/-- Reads steps to the end. -/
def steps? (chars : List Char) : Option (List PathStep) :=
  if chars = [] then
    some []
  else
    match takeStep? chars with
    | some (step, rest) =>
        if rest.length < chars.length then (steps? rest).map (step :: ·) else none
    | none => none
termination_by chars.length

/-- The path with a name.  A name that is no path names a setting as a whole. -/
def ofName (name : String) : SettingPath :=
  let path? : Option SettingPath := do
    let (field, rest) ← takeWord? name.toList
    return ⟨field, ← steps? rest⟩
  path?.getD ⟨name, []⟩

end SettingPath
end Settlement
