import Settlement.Amounts
import Settlement.Date
import Settlement.Decimal.Scientific
import Settlement.Json.Basic
import Settlement.Reference

/-!
# Amounts, identifiers and dates in JSON

A decimal is written as a string with all its digits; the reader also takes scientific notation
and a JSON number.  Money that is read is not rounded, so it may carry more places than money that
is computed.  An identifier is the bare value without the label of its kind.  The array form of a
reference takes the table as a string only.
-/

namespace Settlement

namespace Decimal

instance : JsonCodec Decimal where
  write number := .string number.toText
  read?
    | .string text => ofText? text <|> ofScientific? text
    | .integer value => ofInt? value
    | .double negative size => ofDouble? negative size
    | _ => none

end Decimal

namespace Identifier

instance {kind : RecordKind} : JsonCodec (Identifier kind) where
  write identifier := .string identifier.uuid.toText
  read?
    | .string text => (Uuid.ofText? text).map Identifier.mk
    | _ => none

end Identifier

namespace Date

instance : JsonCodec Date where
  write date := .string date.toText
  read?
    | .string text => ofText? text
    | _ => none

end Date

namespace Money

/-- The fields of an amount. -/
def fieldNames : List String := ["amount", "currency"]

instance : JsonCodec Money where
  write money :=
    .record fieldNames [JsonCodec.write money.amount, JsonCodec.write money.currency]
  read? json :=
    match json.fields? fieldNames with
    | some [amount, currency] => do
        return {
          amount := ← JsonValue.needed? amount
          currency := ← JsonValue.needed? currency }
    | _ => none

end Money

namespace Amounts

/-- The fields of the amounts of an allocation. -/
def fieldNames : List String := ["pay_amt", "discount_amt", "write_off_amt"]

instance : JsonCodec Amounts where
  write amounts :=
    .record fieldNames
      [JsonCodec.write amounts.pay, JsonCodec.write amounts.discount,
        JsonCodec.write amounts.writeOff]
  read? json :=
    match json.fields? fieldNames with
    | some [pay, discount, writeOff] => do
        return {
          pay := ← JsonValue.needed? pay
          discount := ← JsonValue.needed? discount
          writeOff := ← JsonValue.needed? writeOff }
    | _ => none

end Amounts

/-- The tables that documents are kept in. -/
inductive DocumentTable where
  | invoice | payment | order
  deriving DecidableEq, Repr

namespace DocumentTable

instance : Worded DocumentTable where
  all := [invoice, payment, order]
  word
    | invoice => "invoice"
    | payment => "payment"
    | order => "order"
  mem_all := by intro table; cases table <;> decide
  word_injective := by intro left right; cases left <;> cases right <;> decide

end DocumentTable

namespace Reference

/-- The fields of a reference. -/
def fieldNames : List String := ["table", "id"]

/-- The table of a reference. -/
def documentTable : Reference → DocumentTable
  | invoice _ => .invoice
  | payment _ => .payment
  | order _ => .order

/-- The bare value of the identifier of a reference. -/
def recordJson : Reference → JsonValue
  | invoice id => JsonCodec.write id
  | payment id => JsonCodec.write id
  | order id => JsonCodec.write id

/-- Reads the record of a reference to a table. -/
def readRecord? (record : Option JsonValue) : DocumentTable → Option Reference
  | .invoice => invoice <$> JsonValue.needed? record
  | .payment => payment <$> JsonValue.needed? record
  | .order => order <$> JsonValue.needed? record

instance : JsonCodec Reference where
  write reference :=
    .record fieldNames [JsonCodec.write reference.documentTable, reference.recordJson]
  read?
    | .object fields => do
        readRecord? (fields.lookup "id") (← JsonValue.needed? (fields.lookup "table"))
    | .array [.string table, record] => do readRecord? (some record) (← ofWord? table)
    | _ => none

end Reference
end Settlement
