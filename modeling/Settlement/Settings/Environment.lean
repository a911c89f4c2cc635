import Settlement.Digits
import Settlement.Settings.Basic
import Settlement.Settings.Path

/-!
# Settings from the environment

Settings are read from the variables whose names begin with `ALLOCATION_`, in letters of either
case; the rest of the name is a path.  The text of a variable is a truth value, a number or a plain
text, in this order.  A flag is set by a truth value, by a number (every number but zero sets it)
or by one of eight texts; the policy is set by its word, as a text or as the name of its only part.
-/

namespace Settlement

/-- What the text of a variable is. -/
inductive VariableText where
  /-- A truth value. -/
  | flag (value : Bool)
  /-- A number, of which only matters whether it is zero. -/
  | number (isZero : Bool)
  /-- Anything else. -/
  | text (text : String)
  deriving DecidableEq, Repr

namespace VariableText

/-- Text with the letters A to Z in small. -/
def lower (text : String) : String := String.ofList (text.toList.map Char.toLower)

/-- The characters behind an optional sign. -/
def unsigned : List Char → List Char
  | '+' :: rest => rest
  | '-' :: rest => rest
  | chars => chars

/-- Digits, at least one, in base ten. -/
def isDigits (chars : List Char) : Bool := !chars.isEmpty && chars.all Char.isDigit

/-- The number that digits stand for. -/
def digitsValue (digits : List Char) : Nat := Nat.ofDigitChars 10 digits 0

/-- Whether a floating-point number of 64 bits that is nearest to `digits * 10 ^ exponent` is
zero: the digits are, or the number lies at most halfway to the least number above zero, which
is `2 ^ (-1074)`.  Exponents that settle the question by their size are not multiplied out. -/
def isFloatZero (digits : Nat) (length : Nat) (exponent : Int) : Bool :=
  if digits = 0 then true
  else if (length : Int) + exponent < -400 then true
  else if 0 ≤ exponent then false
  else decide (digits * Nat.pow 2 1075 ≤ Nat.pow 10 exponent.natAbs)

/-- The exponent that is written behind its mark; zero when there is none. -/
def exponentValue? : Option (List Char) → Option Int
  | none => some 0
  | some chars =>
      if isDigits (unsigned chars) then
        let size := digitsValue (unsigned chars)
        some (if chars.head? = some '-' then -size else size)
      else
        none

/-- Whether digits with an optional point and exponent stand for zero. -/
def isDecimalZero? (chars : List Char) : Option Bool := do
  let (mantissa, exponentChars) := splitExponent chars
  let whole := mantissa.takeWhile (· != '.')
  let fraction := (mantissa.dropWhile (· != '.')).drop 1
  let exponent ← exponentValue? exponentChars
  if isDigits (whole ++ fraction) then
    some (isFloatZero (digitsValue (whole ++ fraction)) (whole ++ fraction).length
      (exponent - fraction.length))
  else
    none

/-- Whether text that is a number stands for zero.  What is not a number and what is beyond all
numbers count among the numbers. -/
def isNumberZero? (text : String) : Option Bool :=
  let chars := unsigned text.toList
  if lower (String.ofList chars) ∈ ["nan", "inf", "infinity"] then
    some false
  else
    isDecimalZero? chars

/-- What the text of a variable is. -/
def ofText (source : String) : VariableText :=
  if lower source = "true" then
    flag true
  else if lower source = "false" then
    flag false
  else
    match isNumberZero? source with
    | some isZero => number isZero
    | none => text source

/-- What a variable says about a flag. -/
def flag? : VariableText → Option Bool
  | flag value => some value
  | number isZero => some (!isZero)
  | text source =>
      if lower source ∈ ["1", "true", "on", "yes"] then some true
      else if lower source ∈ ["0", "false", "off", "no"] then some false
      else none

/-- What a variable says about the policy. -/
def policy? : VariableText → Option LeftoverPolicy
  | text source => ofWord? (lower source)
  | flag _ | number _ => none

end VariableText

namespace Settings

/-- What every variable that is meant for the settings begins with. -/
def variableHeading : List Char := "allocation_".toList

/-- The name of what a variable sets. -/
def variableTarget? (name : String) : Option String :=
  (variableHeading.isPrefixOf? (name.toList.map Char.toLower)).map String.ofList

end Settings

/-- What variables say about one setting. -/
inductive SettingContent where
  /-- A text. -/
  | text (text : String)
  /-- Parts with names, each name once. -/
  | table (names : List String)
  /-- Parts in order. -/
  | list
  deriving DecidableEq, Repr

namespace SettingContent

/-- The names of the parts of a setting. -/
def names : Option SettingContent → List String
  | some (table names) => names
  | _ => []

/-- What is known about a setting after one more text for it or for a part of it. -/
def update (current : Option SettingContent) (source : String) :
    List PathStep → SettingContent
  | [] => text source
  | .child name :: _ => table ((names current).insert name)
  | .place _ :: _ => list

/-- What is said about a flag. -/
def flag? : SettingContent → Option Bool
  | text source => (VariableText.ofText source).flag?
  | table _ | list => none

/-- What is said about the policy: a text or the name of the only part. -/
def policy? : SettingContent → Option LeftoverPolicy
  | text source => (VariableText.ofText source).policy?
  | table [name] => ofWord? name
  | table _ | list => none

end SettingContent

namespace Settings

/-- What variables say about each setting. -/
abbrev Contents := List (String × SettingContent)

/-- Takes up the text of a variable. -/
def takeUp (contents : Contents) (name text : String) : Contents :=
  let path := SettingPath.ofName name
  let content := SettingContent.update (contents.lookup path.field) text path.steps
  (path.field, content) :: contents.filter fun entry => entry.1 != path.field

/-- Sets one field from what is said about it; other fields are passed over. -/
def setField? (settings : Settings) (field : String) (content : SettingContent) :
    Option Settings :=
  match field with
  | "allow_only_one_vendor_doc" =>
      content.flag?.map fun value => { settings with onlyOneVendorDocument := value }
  | "allow_partial_allocations" =>
      content.flag?.map fun value => { settings with partialAllocations := value }
  | "allow_purchase_sales_invoice_compensation" =>
      content.flag?.map fun value => { settings with compensation := value }
  | "remaining_open_amount_policy" =>
      content.policy?.map fun value => { settings with leftover := value }
  | _ => some settings

/-- Reads settings from the variables of an environment.  Of several variables for one field the
last one counts; what its field cannot take is an error. -/
def ofEnvironment? (environment : List (String × String)) : Option Settings :=
  let contents : Contents := environment.foldl
    (fun contents (name, text) =>
      match variableTarget? name with
      | some target => takeUp contents target text
      | none => contents)
    []
  contents.foldlM (fun settings (field, content) => settings.setField? field content) {}

end Settings
end Settlement
