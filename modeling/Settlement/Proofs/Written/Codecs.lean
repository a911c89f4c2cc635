import Settlement.Json.Values
import Settlement.Proofs.Values.Amounts
import Settlement.Proofs.Written.Decimal
import Settlement.Proofs.Written.Identifiers

/-!
# Fields read back from JSON

What is written to JSON and read again comes back as it was, except that zero amounts come back
without a sign.  Written another time, only these signs differ.
-/

namespace Settlement

open JsonCodec (write read?)
open JsonValue (needed? defaulted?)

/-! ## Types that come back unchanged -/

/-- A type whose values are read back from their JSON. -/
class LawfulJsonCodec (α : Type) [JsonCodec α] : Prop where
  /-- What was written is read back. -/
  read?_write : ∀ value : α, read? (write value) = some value

/-- A type with no value that is written like an absent one. -/
class NonNullJsonCodec (α : Type) [JsonCodec α] : Prop extends LawfulJsonCodec α where
  /-- No value is written as `null`. -/
  write_ne_null : ∀ value : α, write value ≠ .null

attribute [simp] LawfulJsonCodec.read?_write

instance : LawfulJsonCodec Bool := ⟨fun _ => rfl⟩

instance : LawfulJsonCodec String := ⟨fun _ => rfl⟩

instance {α : Type} [Worded α] : LawfulJsonCodec α := ⟨ofWord?_word⟩

instance {kind : RecordKind} : NonNullJsonCodec (Identifier kind) where
  read?_write identifier := by
    simp [write, read?, Uuid.ofText?_toText]
  write_ne_null _ := nofun

/-- An absent value is the only one that is read from `null`. -/
instance {α : Type} [JsonCodec α] [NonNullJsonCodec α] : LawfulJsonCodec (Option α) where
  read?_write
    | none => rfl
    | some value => by
        have present := NonNullJsonCodec.write_ne_null value
        have back := LawfulJsonCodec.read?_write value
        simp only [write, read?, back, Option.map_some]

section Fields

variable {α : Type} [JsonCodec α]

@[simp]
theorem needed?_some (json : JsonValue) : needed? (some json) = (read? json : Option α) := rfl

@[simp]
theorem defaulted?_some (default : α) (json : JsonValue) :
    defaulted? default (some json) = read? json := rfl

end Fields

namespace JsonValue

theorem lookup_zip {names : List String} {values : List JsonValue} (distinct : names.Nodup)
    (length_eq : values.length = names.length) :
    (names.map fun name => (names.zip values).lookup name) = values.map some := by
  induction names generalizing values with
  | nil => simp [List.length_eq_zero_iff.mp length_eq]
  | cons name names ih =>
      cases values with
      | nil => contradiction
      | cons value values =>
          rw [List.nodup_cons] at distinct
          have rest : ∀ other ∈ names, (((name :: names).zip (value :: values)).lookup other) =
              (names.zip values).lookup other := by
            intro other mem
            have apart : (other == name) = false := by
              rw [beq_eq_false_iff_ne]
              rintro rfl
              exact distinct.1 mem
            rw [List.zip_cons_cons, List.lookup_cons, apart]
          rw [List.map_cons, List.map_congr_left rest, ih distinct.2 (by simpa using length_eq)]
          simp

/-- The fields of a record come back in order. -/
theorem fields?_record {names : List String} {values : List JsonValue} (distinct : names.Nodup)
    (length_eq : values.length = names.length) :
    (record names values).fields? names = some (values.map some) :=
  congrArg some (lookup_zip distinct length_eq)

end JsonValue

namespace Reference

theorem readRecord?_recordJson (reference : Reference) :
    readRecord? (some reference.recordJson) reference.documentTable = some reference := by
  cases reference <;> simp [readRecord?, recordJson, documentTable]

instance : NonNullJsonCodec Reference where
  read?_write reference := by
    have table := LawfulJsonCodec.read?_write reference.documentTable
    simp [write, read?, JsonValue.record, fieldNames, List.lookup_cons] at table ⊢
    rw [table, Option.bind_some, readRecord?_recordJson]
  write_ne_null _ := nofun

end Reference

/-! ## Amounts -/

/-- A JSON value against one that differs from it at most in the signs of zero amounts. -/
inductive JsonValue.SameButZeroSigns : JsonValue → JsonValue → Prop
  | same (json : JsonValue) : SameButZeroSigns json json
  | zero (money : Money) (nothing : money.isZero) :
      SameButZeroSigns (write money) (write { money with amount := money.amount.abs })
  | field (name : String) {value value' : JsonValue} {others others' : List (String × JsonValue)}
      (first : SameButZeroSigns value value')
      (rest : SameButZeroSigns (.object others) (.object others')) :
      SameButZeroSigns (.object ((name, value) :: others)) (.object ((name, value') :: others'))

/-- Records differ in the signs of zeros only, where their fields do. -/
theorem JsonValue.SameButZeroSigns.record (names : List String) {values values' : List JsonValue}
    (fields : List.Forall₂ SameButZeroSigns values values') :
    SameButZeroSigns (.record names values) (.record names values') := by
  induction fields generalizing names with
  | nil => exact .same _
  | cons first rest ih =>
      cases names with
      | nil => exact .same _
      | cons name names => exact .field name first (ih names)

namespace Decimal

theorem read?_write (number : Decimal) : read? (write number) = some number.plain := by
  simp [write, read?, ofText?_toText]

end Decimal

namespace Money

/-- The money without the sign of zero. -/
def plain (money : Money) : Money := { money with amount := money.amount.plain }

theorem plain_sameValue (money : Money) : money.plain.SameValue money :=
  ⟨money.amount.plain_sameValue, rfl⟩

theorem read?_write (money : Money) : read? (write money) = some money.plain := by
  have fields : (write money).fields? fieldNames =
      some [some (write money.amount), some (write money.currency)] :=
    JsonValue.fields?_record (by decide) rfl
  simp only [read?, fields]
  simp [Decimal.read?_write, plain]

/-- Only zero is written in another way, and only its sign is. -/
theorem write_plain (money : Money) :
    JsonValue.SameButZeroSigns (write money) (write money.plain) := by
  by_cases nothing : money.amount.coefficient = 0
  · have unsigned : money.plain = { money with amount := money.amount.abs } := by
      simp [plain, Decimal.plain, Decimal.abs, nothing]
    rw [unsigned]
    exact .zero money (by simp [isZero, Decimal.isZero, nothing])
  · rw [plain, Decimal.plain_of_coefficient_ne_zero nothing]
    exact .same _

end Money

namespace Amounts

/-- The amounts without the signs of zeros. -/
def plain (amounts : Amounts) : Amounts :=
  ⟨amounts.pay.plain, amounts.discount.plain, amounts.writeOff.plain⟩

theorem plain_sameValue (amounts : Amounts) : amounts.plain.SameValue amounts :=
  ⟨amounts.pay.plain_sameValue, amounts.discount.plain_sameValue,
    amounts.writeOff.plain_sameValue⟩

theorem read?_write (amounts : Amounts) : read? (write amounts) = some amounts.plain := by
  have fields : (write amounts).fields? fieldNames =
      some [some (write amounts.pay), some (write amounts.discount),
        some (write amounts.writeOff)] :=
    JsonValue.fields?_record (by decide) rfl
  simp only [read?, fields]
  simp [Money.read?_write, plain]

theorem write_plain (amounts : Amounts) :
    JsonValue.SameButZeroSigns (write amounts) (write amounts.plain) :=
  .record fieldNames <| .cons amounts.pay.write_plain <| .cons amounts.discount.write_plain <|
    .cons amounts.writeOff.write_plain .nil

end Amounts

end Settlement
