import Settlement.Json.Records
import Settlement.Proofs.Values.Documents
import Settlement.Proofs.Written.Codecs

/-!
# Documents and candidates read back from JSON

Payables, payments and candidates are read back from the JSON that they are written as, with the
same money in every amount.  Writing what was read gives the same JSON, except that zero amounts
have lost their signs.
-/

namespace Settlement

open JsonCodec (write read?)

/-- A value is read back from its JSON as the same one, and is written in the same way again,
except for the signs of zero amounts. -/
def JsonCodec.RoundTrips {α : Type} [JsonCodec α] (Same : α → α → Prop) (value : α) : Prop :=
  ∃ again : α, read? (write value) = some again ∧ Same again value ∧
    JsonValue.SameButZeroSigns (write value) (write again)

namespace Payable

/-- The payable without the signs of zeros. -/
def plain (payable : Payable) : Payable :=
  { payable with
    openAmount := payable.openAmount.plain
    initial := payable.initial.plain
    remaining := payable.remaining.plain
    allocated := payable.allocated.plain }

theorem read?_write (payable : Payable) : read? (write payable) = some payable.plain := by
  have fields : (write payable).fields? fieldNames =
      some [some (write payable.kind), some (write payable.organization),
        some (write payable.partner), some (write payable.number), some (write payable.side),
        some (write payable.creditMemo), some (write payable.reference),
        some (write payable.openAmount), some (write payable.initial),
        some (write payable.remaining), some (write payable.allocated)] :=
    JsonValue.fields?_record (by decide) rfl
  simp only [read?, fields]
  simp [Money.read?_write, Amounts.read?_write, plain]

theorem write_plain (payable : Payable) :
    JsonValue.SameButZeroSigns (write payable) (write payable.plain) :=
  .record fieldNames <| .cons (.same _) <| .cons (.same _) <| .cons (.same _) <|
    .cons (.same _) <| .cons (.same _) <| .cons (.same _) <| .cons (.same _) <|
    .cons payable.openAmount.write_plain <| .cons payable.initial.write_plain <|
    .cons payable.remaining.write_plain <| .cons payable.allocated.write_plain .nil

theorem roundTrips (payable : Payable) : JsonCodec.RoundTrips SameValue payable :=
  ⟨payable.plain, payable.read?_write,
    ⟨rfl, rfl, rfl, rfl, rfl, rfl, rfl, payable.openAmount.plain_sameValue,
      payable.initial.plain_sameValue, payable.remaining.plain_sameValue,
      payable.allocated.plain_sameValue⟩,
    payable.write_plain⟩

end Payable

namespace Payment

/-- The payment without the signs of zeros. -/
def plain (payment : Payment) : Payment :=
  { payment with
    openAmount := payment.openAmount.plain
    initial := payment.initial.plain
    remaining := payment.remaining.plain
    allocated := payment.allocated.plain }

theorem read?_write (payment : Payment) : read? (write payment) = some payment.plain := by
  have fields : (write payment).fields? fieldNames =
      some [some (write payment.organization), some (write payment.partner),
        some (write payment.number), some (write payment.direction), some (write payment.id),
        some (write payment.openAmount), some (write payment.initial),
        some (write payment.remaining), some (write payment.allocated)] :=
    JsonValue.fields?_record (by decide) rfl
  simp only [read?, fields]
  simp [Money.read?_write, plain]

theorem write_plain (payment : Payment) :
    JsonValue.SameButZeroSigns (write payment) (write payment.plain) :=
  .record fieldNames <| .cons (.same _) <| .cons (.same _) <| .cons (.same _) <|
    .cons (.same _) <| .cons (.same _) <| .cons payment.openAmount.write_plain <|
    .cons payment.initial.write_plain <| .cons payment.remaining.write_plain <|
    .cons payment.allocated.write_plain .nil

theorem roundTrips (payment : Payment) : JsonCodec.RoundTrips SameValue payment :=
  ⟨payment.plain, payment.read?_write,
    ⟨rfl, rfl, rfl, rfl, rfl, payment.openAmount.plain_sameValue,
      payment.initial.plain_sameValue, payment.remaining.plain_sameValue,
      payment.allocated.plain_sameValue⟩,
    payment.write_plain⟩

end Payment

namespace Candidate

/-- The candidate without the signs of zeros. -/
def plain (candidate : Candidate) : Candidate :=
  { candidate with
    amounts := candidate.amounts.plain
    payableOverUnder := candidate.payableOverUnder.plain
    paymentOverUnder := candidate.paymentOverUnder.plain }

theorem read?_write (candidate : Candidate) : read? (write candidate) = some candidate.plain := by
  have fields : (write candidate).fields? fieldNames =
      some [some (write candidate.kind), some (write candidate.organization),
        some (write candidate.partner), some (write candidate.payable),
        some (write candidate.payment), some (write candidate.amounts),
        some (write candidate.payableOverUnder), some (write candidate.paymentOverUnder)] :=
    JsonValue.fields?_record (by decide) rfl
  simp only [read?, fields]
  simp [Money.read?_write, Amounts.read?_write, plain]

theorem write_plain (candidate : Candidate) :
    JsonValue.SameButZeroSigns (write candidate) (write candidate.plain) :=
  .record fieldNames <| .cons (.same _) <| .cons (.same _) <| .cons (.same _) <|
    .cons (.same _) <| .cons (.same _) <| .cons candidate.amounts.write_plain <|
    .cons candidate.payableOverUnder.write_plain <|
    .cons candidate.paymentOverUnder.write_plain .nil

theorem roundTrips (candidate : Candidate) : JsonCodec.RoundTrips SameValue candidate :=
  ⟨candidate.plain, candidate.read?_write,
    ⟨rfl, rfl, rfl, rfl, rfl, candidate.amounts.plain_sameValue,
      candidate.payableOverUnder.plain_sameValue, candidate.paymentOverUnder.plain_sameValue⟩,
    candidate.write_plain⟩

end Candidate

/-- Every payable, payment and candidate is read back from the JSON that it is written as.  What
is read has the same value, and its JSON differs at most in the signs of zero amounts. -/
theorem documents_candidates_round_trip :
    (∀ payable : Payable, JsonCodec.RoundTrips Payable.SameValue payable) ∧
      (∀ payment : Payment, JsonCodec.RoundTrips Payment.SameValue payment) ∧
      ∀ candidate : Candidate, JsonCodec.RoundTrips Candidate.SameValue candidate :=
  ⟨Payable.roundTrips, Payment.roundTrips, Candidate.roundTrips⟩

end Settlement
