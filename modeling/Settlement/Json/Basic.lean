import Settlement.Decimal.Double
import Settlement.Word

/-!
# JSON values

JSON as a tree, and the types that are written to it and read from it.  A record is written as an
object.  The reader also takes the array of all its fields in order, passes over fields that it
does not know, and takes a missing optional field for an absent one.  A type written as a word is
a string; the reader also takes the object whose only field is the word, with nothing in it.
-/

namespace Settlement

/-- A JSON value. -/
inductive JsonValue where
  | null
  | bool (value : Bool)
  /-- A whole number. -/
  | integer (value : Int)
  /-- A number in double precision: its sign, which zero may carry too, and its size. -/
  | double (negative : Bool) (size : Double)
  | string (text : String)
  | array (items : List JsonValue)
  | object (fields : List (String × JsonValue))
  deriving Repr, Inhabited

/-- A type that is written to JSON and read from it. -/
class JsonCodec (α : Type) where
  /-- The JSON for a value. -/
  write : α → JsonValue
  /-- The value that JSON stands for. -/
  read? : JsonValue → Option α

namespace JsonValue

/-- A field of an object. -/
def field? (name : String) : JsonValue → Option JsonValue
  | object fields => fields.lookup name
  | _ => none

/-- An object with named fields. -/
def record (names : List String) (values : List JsonValue) : JsonValue :=
  object (names.zip values)

/-- The fields of a record, by name from an object or in order from an array. -/
def fields? (names : List String) : JsonValue → Option (List (Option JsonValue))
  | object fields => some (names.map fun name => fields.lookup name)
  | array items => if items.length = names.length then some (items.map some) else none
  | _ => none

/-- The fields of a record in which every field may be missing; an array may stop early. -/
def sparseFields? (names : List String) : JsonValue → Option (List (Option JsonValue))
  | object fields => some (names.map fun name => fields.lookup name)
  | array items =>
      if items.length ≤ names.length then
        some (items.map some ++ List.replicate (names.length - items.length) none)
      else
        none
  | _ => none

/-- Reads a field that must be there. -/
def needed? {α : Type} [JsonCodec α] (field : Option JsonValue) : Option α :=
  field.bind JsonCodec.read?

/-- Reads a field that may be missing; a missing one has a default. -/
def defaulted? {α : Type} [JsonCodec α] (default : α) (field : Option JsonValue) : Option α :=
  match field with
  | none => some default
  | some value => JsonCodec.read? value

end JsonValue

namespace JsonCodec

instance : JsonCodec Bool where
  write := .bool
  read?
    | .bool value => some value
    | _ => none

instance : JsonCodec String where
  write := .string
  read?
    | .string text => some text
    | _ => none

instance {α : Type} [JsonCodec α] : JsonCodec (List α) where
  write values := .array (values.map write)
  read?
    | .array items => items.mapM read?
    | _ => none

/-- An absent value is written as `null`. -/
instance {α : Type} [JsonCodec α] : JsonCodec (Option α) where
  write
    | none => .null
    | some value => write value
  read?
    | .null => some none
    | value => (read? value).map some

instance {α : Type} [Worded α] : JsonCodec α where
  write value := .string (word value)
  read?
    | .string text => ofWord? text
    | .object [(text, .null)] => ofWord? text
    | _ => none

end JsonCodec
end Settlement
