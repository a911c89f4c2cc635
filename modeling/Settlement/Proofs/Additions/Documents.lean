import Settlement.Proofs.Currencies.Steps
import Settlement.Proofs.Exact.Simulation
import Settlement.Proofs.Reconciliation

/-!
# One payment more

Documents with one payment more at the end are followed beside those without it.  Up to the place
of the payable that has come to the new payment, less may be left to pay of a payable; from there
on the payables are the very same, and so are all payments but the new one.  A step that knows
nothing of the new payment therefore does the same on both sides, and pairing the next payable
with the new payment only takes something off that payable.
-/

namespace Settlement

/-- The candidate settles the document with a reference or is paid with it. -/
def Candidate.Names (reference : Reference) (candidate : Candidate) : Bool :=
  candidate.Settles reference || candidate.PaidWith reference

/-- The same payable with no more left to pay. -/
structure Payable.Undercuts (other payable : Payable) : Prop where
  reference_eq : payable.reference = other.reference
  within : Within payable.debt.remaining.pay other.debt.remaining.pay

theorem Payable.Undercuts.refl (payable : Payable) : payable.Undercuts payable :=
  ⟨rfl, .refl _⟩

theorem Payable.Undercuts.trans {first second third : Payable} (early : first.Undercuts second)
    (late : second.Undercuts third) : first.Undercuts third :=
  ⟨late.reference_eq.trans early.reference_eq, late.within.trans early.within⟩

/-- A document that acts as a payment and comes before the new payment in its place, or stands
among the payables from a bound on. -/
def Means.Shared (place bound : Nat) : Means → Prop
  | .payment index => index < place
  | .creditMemo index | .purchaseInvoice index => bound ≤ index

/-- A step that knows nothing of the new payment, and only of payables from a bound on. -/
def Step.Shared (place bound : Nat) : Step → Prop
  | .pair _ payable means => bound ≤ payable ∧ means.Shared place bound
  | .leftover _ => True
  | .reverse _ _ | .remainder _ => False

namespace Documents

/-- The documents with one payment more, which comes last. -/
def withPayment (documents : Documents) (extra : Payment) : Documents :=
  { documents with payments := documents.payments ++ [extra] }

/-- The wide documents have one payment more, with a reference and in a place after all others.
The payables from a bound on are the same. -/
structure Beside (extra : Reference) (place bound : Nat) (narrow wide : Documents) : Prop where
  place_eq : narrow.payments.length = place
  payments : ∃ payment, wide.payments = narrow.payments ++ [payment] ∧ payment.reference = extra
  untouched : ∀ index, bound ≤ index → wide.payables[index]? = narrow.payables[index]?

/-- Of all payables no more is left to pay beside the new payment than without it. -/
structure Widened (extra : Reference) (place bound : Nat) (narrow wide : Documents) : Prop
    extends Beside extra place bound narrow wide where
  payables : List.Forall₂ Payable.Undercuts narrow.payables wide.payables

variable {extra : Reference} {place bound index : Nat} {narrow wide : Documents}

theorem widened_withPayment (documents : Documents) (extra : Payment) :
    documents.Widened extra.reference documents.payments.length 0
      (documents.withPayment extra) where
  place_eq := rfl
  payments := ⟨extra, rfl, rfl⟩
  untouched _ _ := rfl
  payables := List.forall₂_same.mpr fun _ _ => .refl _

theorem Beside.mono (beside : narrow.Beside extra place bound wide) {later : Nat}
    (grown : bound ≤ later) : narrow.Beside extra place later wide :=
  ⟨beside.place_eq, beside.payments, fun index above =>
    beside.untouched index (grown.trans above)⟩

/-! ## Looking documents up -/

theorem Widened.payable_eq (widened : narrow.Widened extra place bound wide)
    (later : bound ≤ index) : wide.payable index = narrow.payable index := by
  rw [Documents.payable, Documents.payable, entry, entry, widened.untouched index later,
    widened.payables.length_eq]

theorem Beside.payment_eq (beside : narrow.Beside extra place bound wide)
    (earlier : index < place) : wide.payments[index]? = narrow.payments[index]? := by
  obtain ⟨payment, payments_eq, -⟩ := beside.payments
  rw [payments_eq, List.getElem?_append_left (beside.place_eq ▸ earlier)]

/-- What stands in the last place is the new payment. -/
theorem Beside.payment_last (beside : narrow.Beside extra place bound wide) :
    ∃ payment, wide.payments[place]? = some payment ∧ payment.reference = extra := by
  obtain ⟨payment, payments_eq, reference_eq⟩ := beside.payments
  refine ⟨payment, ?_, reference_eq⟩
  rw [payments_eq, ← beside.place_eq, List.getElem?_concat_length]

/-- The new payment comes after all others. -/
theorem Beside.means_eq (beside : narrow.Beside extra place bound wide) :
    wide.means = narrow.means ++ [.payment place] := by
  obtain ⟨payment, payments_eq, -⟩ := beside.payments
  simp [means, payments_eq, List.range_succ, beside.place_eq]

theorem Widened.view_eq (widened : narrow.Widened extra place bound wide) {means : Means}
    (shared : means.Shared place bound) : wide.view means = narrow.view means := by
  cases means with
  | payment index =>
      have present : index < narrow.payments.length := widened.place_eq ▸ shared
      rw [view, view, Documents.payment, Documents.payment, entry, entry,
        widened.payment_eq shared, List.getElem?_eq_getElem present]
  | creditMemo index => rw [view, view, widened.payable_eq shared]
  | purchaseInvoice index => rw [view, view, widened.payable_eq shared]

/-- The same is proposed for two documents that are there on both sides. -/
theorem Widened.pairing_eq (widened : narrow.Widened extra place bound wide)
    (kind : CandidateKind) (later : bound ≤ index) {means : Means}
    (shared : means.Shared place bound) :
    wide.pairing kind index means = narrow.pairing kind index means := by
  unfold pairing
  rw [widened.payable_eq later, widened.view_eq shared]

/-- Whatever is paid with the new payment names it. -/
theorem Beside.names_extra (beside : narrow.Beside extra place bound wide) {kind : CandidateKind}
    {proposal : Proposal} (proposed : wide.pairing kind index (.payment place) =
      .ok (some proposal)) : proposal.candidate.Names extra = true := by
  obtain ⟨payable, view, pairs⟩ := pairing_eq_some proposed
  obtain ⟨payment, payment_eq, reference_eq⟩ := beside.payment_last
  obtain ⟨found, found_eq, rfl⟩ := map_eq_ok.mp pairs.view_eq
  obtain rfl := Option.some.inj (payment_eq.symm.trans (entry_eq_ok.mp found_eq))
  simp [Candidate.Names, Candidate.PaidWith, pairs.paid_with, PaymentView.reference,
    reference_eq]

/-! ## The same change on both sides -/

theorem Widened.changePayable (widened : narrow.Widened extra place bound wide)
    (later : bound ≤ index) (change : Payable → Attempt Payable) :
    (narrow.changePayable index change).Same (Widened extra place bound)
      (wide.changePayable index change) := by
  unfold Documents.changePayable changeEntry
  rw [widened.untouched index later, widened.payables.length_eq]
  split
  · rename_i payable payable_eq
    refine ⟨⟨⟨widened.place_eq, widened.payments, fun other other_later => ?_⟩,
      forall₂_set widened.payables index (.refl _)⟩, rfl⟩
    simp only [Attempt.map]
    rw [List.getElem?_set, List.getElem?_set, widened.untouched other other_later,
      widened.payables.length_eq]
  · exact ⟨widened, rfl⟩

theorem Widened.changePayment (widened : narrow.Widened extra place bound wide)
    (earlier : index < place) (change : Payment → Attempt Payment) :
    (narrow.changePayment index change).Same (Widened extra place bound)
      (wide.changePayment index change) := by
  obtain ⟨payment, payments_eq, reference_eq⟩ := widened.payments
  have present : index < narrow.payments.length := widened.place_eq ▸ earlier
  unfold Documents.changePayment changeEntry
  rw [widened.payment_eq earlier, List.getElem?_eq_getElem present]
  refine ⟨⟨⟨?_, ⟨payment, ?_, reference_eq⟩, widened.untouched⟩, widened.payables⟩, rfl⟩
  · exact List.length_set.trans widened.place_eq
  · rw [payments_eq]
    exact List.set_append_left _ _ present

theorem Widened.pay (widened : narrow.Widened extra place bound wide) {means : Means}
    (shared : means.Shared place bound) (amount : Money) :
    (narrow.pay means amount).Same (Widened extra place bound) (wide.pay means amount) := by
  cases means with
  | payment index => exact widened.changePayment shared _
  | creditMemo index => exact widened.changePayable shared _
  | purchaseInvoice index => exact widened.changePayable shared _

/-- What is recorded of a payable and a document that pays it is the same on both sides. -/
theorem Widened.record (widened : narrow.Widened extra place bound wide) (later : bound ≤ index)
    {means : Means} (shared : means.Shared place bound) (amounts : Amounts) :
    ((narrow.allocate index amounts).andThen (·.pay means amounts.pay)).Same
      (Widened extra place bound)
      ((wide.allocate index amounts).andThen (·.pay means amounts.pay)) :=
  (widened.changePayable later _).andThen fun _ _ recorded => recorded.pay shared _

/-! ## Paying the next payable with the new payment -/

/-- Changes of the next payable alone are not noticed beyond it. -/
theorem Beside.changePayable (beside : narrow.Beside extra place (bound + 1) wide)
    (change : Payable → Attempt Payable) :
    narrow.Beside extra place (bound + 1) (wide.changePayable bound change).after := by
  refine ⟨beside.place_eq, beside.payments, fun index later => ?_⟩
  rw [← beside.untouched index later]
  unfold Documents.changePayable changeEntry
  split
  · exact List.getElem?_set_ne (by omega)
  · rfl

/-- Paying with the new payment changes no other. -/
theorem Beside.pay (beside : narrow.Beside extra place bound wide) (amount : Money) :
    narrow.Beside extra place bound (wide.pay (.payment place) amount).after := by
  obtain ⟨payment, payments_eq, rfl⟩ := beside.payments
  refine ⟨beside.place_eq, ⟨(payment.allocate amount).after, ?_, ?_⟩, beside.untouched⟩
  · obtain rfl := beside.place_eq
    have last_eq : wide.payments[narrow.payments.length]? = some payment := by
      rw [payments_eq, List.getElem?_concat_length]
    dsimp only [Documents.pay, Documents.changePayment, changeEntry]
    rw [last_eq]
    simp [Attempt.map, payments_eq]
  · exact (payment.kept_allocate amount).reference_eq

end Documents
end Settlement
