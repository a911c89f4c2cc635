import Settlement.Proofs.Currencies.Labels
import Settlement.Proofs.Currencies.Positions
import Settlement.Proofs.Outcomes

/-!
# The documents of one currency

The documents of one currency among others are a part of them.  What happens to a document of that
currency happens to the part as well, at the document's position there, and what happens to other
documents leaves the part alone.
-/

namespace Settlement

/-- The documents in a currency, in order. -/
def Documents.only (currency : Currency) (documents : Documents) : Documents where
  payables := documents.payables.filter (·.currency == currency)
  payments := documents.payments.filter (·.currency == currency)

/-! ## Entries -/

namespace Documents

section

variable {α : Type} {keep : α → Bool} {entries : List α} {index position : Nat}
  {change : α → Attempt α}

theorem entry_of_position (position_eq : position? keep entries index = some position) :
    ∃ value ∈ entries, entry entries index = .ok value ∧
      entry (entries.filter keep) position = .ok value ∧ keep value = true := by
  obtain ⟨value, value_eq, kept, found⟩ := getElem?_of_position position_eq
  exact ⟨value, List.mem_of_getElem? value_eq, entry_eq_ok.mpr value_eq, entry_eq_ok.mpr found,
    kept⟩

/-- A kept entry is changed in the part as it is in the whole. -/
theorem changeEntry_of_position (position_eq : position? keep entries index = some position)
    (keeps : ∀ value, keep (change value).after = keep value) :
    (changeEntry entries index change).Same (fun whole part => part = whole.filter keep)
      (changeEntry (entries.filter keep) position change) := by
  obtain ⟨value, value_eq, kept, found⟩ := getElem?_of_position position_eq
  unfold changeEntry
  rw [value_eq, found]
  exact ⟨(filter_set_of_position position_eq ((keeps value).trans kept)).symm, rfl⟩

/-- An entry that is not kept is changed without the part noticing. -/
theorem changeEntry_of_dropped (position_eq : position? keep entries index = none)
    (keeps : ∀ value, keep (change value).after = keep value) :
    (changeEntry entries index change).after.filter keep = entries.filter keep := by
  unfold changeEntry
  split
  · rename_i value value_eq
    have dropped := dropped_of_position position_eq value_eq
    exact filter_set_of_dropped position_eq ((keeps value).trans dropped)
  · rfl

end

/-! ## Documents -/

/-- The position of a payable among those in a currency. -/
def payablePosition? (currency : Currency) (documents : Documents) (index : Nat) : Option Nat :=
  position? (·.currency == currency) documents.payables index

/-- The position of a payment among those in a currency. -/
def paymentPosition? (currency : Currency) (documents : Documents) (index : Nat) : Option Nat :=
  position? (·.currency == currency) documents.payments index

/-- A document that acts as a payment, as the documents in a currency name it. -/
def means? (currency : Currency) (documents : Documents) : Means → Option Means
  | .payment index => .payment <$> documents.paymentPosition? currency index
  | .creditMemo index => .creditMemo <$> documents.payablePosition? currency index
  | .purchaseInvoice index => .purchaseInvoice <$> documents.payablePosition? currency index

/-- Documents that have changed in their balances since the `start`, and the part of them in a
currency. -/
structure Mirrors (start : Documents) (currency : Currency) (whole part : Documents) : Prop where
  kept : start.Kept whole
  part_eq : part = whole.only currency

variable {start whole part : Documents} {currency : Currency} {index position : Nat}

theorem Mirrors.refl (start : Documents) (currency : Currency) :
    start.Mirrors currency start (start.only currency) := ⟨.refl start, rfl⟩

theorem Mirrors.payablePosition_eq (mirrors : start.Mirrors currency whole part) (index : Nat) :
    start.payablePosition? currency index = whole.payablePosition? currency index :=
  position?_congr mirrors.kept.payables (fun _ _ kept => by rw [kept.currency_eq]) index

theorem Mirrors.paymentPosition_eq (mirrors : start.Mirrors currency whole part) (index : Nat) :
    start.paymentPosition? currency index = whole.paymentPosition? currency index :=
  position?_congr mirrors.kept.payments (fun _ _ kept => by rw [kept.currency_eq]) index

theorem Mirrors.payable (mirrors : start.Mirrors currency whole part)
    (position_eq : start.payablePosition? currency index = some position) :
    ∃ payable ∈ whole.payables, whole.payable index = .ok payable ∧
      part.payable position = .ok payable ∧ payable.currency = currency := by
  rw [mirrors.payablePosition_eq] at position_eq
  obtain ⟨payable, mem, whole_eq, part_eq, kept⟩ := entry_of_position position_eq
  rw [mirrors.part_eq]
  exact ⟨payable, mem, whole_eq, part_eq, eq_of_beq kept⟩

theorem Mirrors.payment (mirrors : start.Mirrors currency whole part)
    (position_eq : start.paymentPosition? currency index = some position) :
    ∃ payment ∈ whole.payments, whole.payment index = .ok payment ∧
      part.payment position = .ok payment ∧ payment.currency = currency := by
  rw [mirrors.paymentPosition_eq] at position_eq
  obtain ⟨payment, mem, whole_eq, part_eq, kept⟩ := entry_of_position position_eq
  rw [mirrors.part_eq]
  exact ⟨payment, mem, whole_eq, part_eq, eq_of_beq kept⟩

/-- A payable without a position is in another currency. -/
theorem Mirrors.payable_outside (mirrors : start.Mirrors currency whole part)
    (position_eq : start.payablePosition? currency index = none) {payable : Payable}
    (payable_eq : whole.payable index = .ok payable) : payable.currency ≠ currency := by
  rw [mirrors.payablePosition_eq] at position_eq
  exact ne_of_beq_false (dropped_of_position position_eq (entry_eq_ok.mp payable_eq))

/-- A payment without a position is in another currency. -/
theorem Mirrors.payment_outside (mirrors : start.Mirrors currency whole part)
    (position_eq : start.paymentPosition? currency index = none) {payment : Payment}
    (payment_eq : whole.payment index = .ok payment) : payment.currency ≠ currency := by
  rw [mirrors.paymentPosition_eq] at position_eq
  exact ne_of_beq_false (dropped_of_position position_eq (entry_eq_ok.mp payment_eq))

/-- A payable in another currency has no position. -/
theorem Mirrors.payablePosition_eq_none (mirrors : start.Mirrors currency whole part)
    {payable : Payable} (payable_eq : whole.payable index = .ok payable)
    (other : payable.currency ≠ currency) : start.payablePosition? currency index = none := by
  rw [mirrors.payablePosition_eq]
  exact position?_eq_none (entry_eq_ok.mp payable_eq) (beq_false_of_ne other)

/-- A payment in another currency has no position. -/
theorem Mirrors.paymentPosition_eq_none (mirrors : start.Mirrors currency whole part)
    {payment : Payment} (payment_eq : whole.payment index = .ok payment)
    (other : payment.currency ≠ currency) : start.paymentPosition? currency index = none := by
  rw [mirrors.paymentPosition_eq]
  exact position?_eq_none (entry_eq_ok.mp payment_eq) (beq_false_of_ne other)

/-- A payable of the currency is changed in the part as well. -/
theorem Mirrors.changePayable (mirrors : start.Mirrors currency whole part)
    (position_eq : start.payablePosition? currency index = some position)
    {change : Payable → Attempt Payable}
    (keeps : ∀ payable : Payable, payable.Kept (change payable).after) :
    (whole.changePayable index change).Same (start.Mirrors currency)
      (part.changePayable position change) := by
  have kept := mirrors.kept.trans (whole.kept_changePayable index keeps)
  rw [mirrors.payablePosition_eq] at position_eq
  have changed := changeEntry_of_position position_eq
    fun value => by rw [(keeps value).currency_eq]
  rw [mirrors.part_eq]
  refine ⟨⟨kept, ?_⟩, changed.fault?_eq⟩
  exact congrArg (Documents.mk · (whole.payments.filter _)) changed.after

/-- Another payable is changed without the part noticing. -/
theorem Mirrors.changePayable_outside (mirrors : start.Mirrors currency whole part)
    (position_eq : start.payablePosition? currency index = none)
    {change : Payable → Attempt Payable}
    (keeps : ∀ payable : Payable, payable.Kept (change payable).after) :
    start.Mirrors currency (whole.changePayable index change).after part := by
  have kept := mirrors.kept.trans (whole.kept_changePayable index keeps)
  rw [mirrors.payablePosition_eq] at position_eq
  have unnoticed := changeEntry_of_dropped position_eq
    fun value => by rw [(keeps value).currency_eq]
  refine ⟨kept, mirrors.part_eq.trans ?_⟩
  exact congrArg (Documents.mk · (whole.payments.filter _)) unnoticed.symm

/-- A payment of the currency is changed in the part as well. -/
theorem Mirrors.changePayment (mirrors : start.Mirrors currency whole part)
    (position_eq : start.paymentPosition? currency index = some position)
    {change : Payment → Attempt Payment}
    (keeps : ∀ payment : Payment, payment.Kept (change payment).after) :
    (whole.changePayment index change).Same (start.Mirrors currency)
      (part.changePayment position change) := by
  have kept := mirrors.kept.trans (whole.kept_changePayment index keeps)
  rw [mirrors.paymentPosition_eq] at position_eq
  have changed := changeEntry_of_position position_eq
    fun value => by rw [(keeps value).currency_eq]
  rw [mirrors.part_eq]
  refine ⟨⟨kept, ?_⟩, changed.fault?_eq⟩
  exact congrArg (Documents.mk (whole.payables.filter _)) changed.after

/-- Another payment is changed without the part noticing. -/
theorem Mirrors.changePayment_outside (mirrors : start.Mirrors currency whole part)
    (position_eq : start.paymentPosition? currency index = none)
    {change : Payment → Attempt Payment}
    (keeps : ∀ payment : Payment, payment.Kept (change payment).after) :
    start.Mirrors currency (whole.changePayment index change).after part := by
  have kept := mirrors.kept.trans (whole.kept_changePayment index keeps)
  rw [mirrors.paymentPosition_eq] at position_eq
  have unnoticed := changeEntry_of_dropped position_eq
    fun value => by rw [(keeps value).currency_eq]
  refine ⟨kept, mirrors.part_eq.trans ?_⟩
  exact congrArg (Documents.mk (whole.payables.filter _)) unnoticed.symm

theorem Mirrors.allocate (mirrors : start.Mirrors currency whole part)
    (position_eq : start.payablePosition? currency index = some position) (amounts : Amounts) :
    (whole.allocate index amounts).Same (start.Mirrors currency)
      (part.allocate position amounts) :=
  mirrors.changePayable position_eq fun payable => payable.kept_allocate amounts

theorem Mirrors.allocate_outside (mirrors : start.Mirrors currency whole part)
    (position_eq : start.payablePosition? currency index = none) (amounts : Amounts) :
    start.Mirrors currency (whole.allocate index amounts).after part :=
  mirrors.changePayable_outside position_eq fun payable => payable.kept_allocate amounts

/-! ## Documents that act as payments -/

variable {means means' : Means}

theorem Mirrors.view (mirrors : start.Mirrors currency whole part)
    (means_eq : start.means? currency means = some means') :
    ∃ view : PaymentView, whole.view means = .ok view ∧ part.view means' = .ok view ∧
      view.currency = currency ∧ whole.Holds view.reference currency := by
  cases means with
  | payment index =>
      obtain ⟨position, position_eq, rfl⟩ := Option.map_eq_some_iff.mp means_eq
      obtain ⟨payment, mem, whole_eq, part_eq, same⟩ := mirrors.payment position_eq
      refine ⟨.payment payment, ?_, ?_, same, .inr ⟨payment, mem, rfl, same⟩⟩
      · rw [Documents.view, whole_eq]
        rfl
      · rw [Documents.view, part_eq]
        rfl
  | creditMemo index =>
      obtain ⟨position, position_eq, rfl⟩ := Option.map_eq_some_iff.mp means_eq
      obtain ⟨payable, mem, whole_eq, part_eq, same⟩ := mirrors.payable position_eq
      refine ⟨.creditMemo payable, ?_, ?_, same, .inl ⟨payable, mem, rfl, same⟩⟩
      · rw [Documents.view, whole_eq]
        rfl
      · rw [Documents.view, part_eq]
        rfl
  | purchaseInvoice index =>
      obtain ⟨position, position_eq, rfl⟩ := Option.map_eq_some_iff.mp means_eq
      obtain ⟨payable, mem, whole_eq, part_eq, same⟩ := mirrors.payable position_eq
      refine ⟨.purchaseInvoice payable, ?_, ?_, same, .inl ⟨payable, mem, rfl, same⟩⟩
      · rw [Documents.view, whole_eq]
        rfl
      · rw [Documents.view, part_eq]
        rfl

/-- A document that has no position is in another currency. -/
theorem Mirrors.view_outside (mirrors : start.Mirrors currency whole part)
    (means_eq : start.means? currency means = none) {view : PaymentView}
    (view_eq : whole.view means = .ok view) : view.currency ≠ currency := by
  cases means with
  | payment index =>
      obtain ⟨payment, payment_eq, rfl⟩ := map_eq_ok.mp view_eq
      exact mirrors.payment_outside (Option.map_eq_none_iff.mp means_eq) payment_eq
  | creditMemo index =>
      obtain ⟨payable, payable_eq, rfl⟩ := map_eq_ok.mp view_eq
      exact mirrors.payable_outside (Option.map_eq_none_iff.mp means_eq) payable_eq
  | purchaseInvoice index =>
      obtain ⟨payable, payable_eq, rfl⟩ := map_eq_ok.mp view_eq
      exact mirrors.payable_outside (Option.map_eq_none_iff.mp means_eq) payable_eq

theorem Mirrors.means_eq_none (mirrors : start.Mirrors currency whole part) {view : PaymentView}
    (view_eq : whole.view means = .ok view) (other : view.currency ≠ currency) :
    start.means? currency means = none := by
  by_contra placed
  obtain ⟨means', means_eq⟩ := Option.ne_none_iff_exists'.mp placed
  obtain ⟨found, found_eq, -, same, -⟩ := mirrors.view means_eq
  cases view_eq.symm.trans found_eq
  exact other same

theorem Mirrors.pay (mirrors : start.Mirrors currency whole part)
    (means_eq : start.means? currency means = some means') (amount : Money) :
    (whole.pay means amount).Same (start.Mirrors currency) (part.pay means' amount) := by
  cases means with
  | payment index =>
      obtain ⟨position, position_eq, rfl⟩ := Option.map_eq_some_iff.mp means_eq
      exact mirrors.changePayment position_eq fun payment => payment.kept_allocate amount
  | creditMemo index =>
      obtain ⟨position, position_eq, rfl⟩ := Option.map_eq_some_iff.mp means_eq
      exact mirrors.allocate position_eq _
  | purchaseInvoice index =>
      obtain ⟨position, position_eq, rfl⟩ := Option.map_eq_some_iff.mp means_eq
      exact mirrors.allocate position_eq _

theorem Mirrors.pay_outside (mirrors : start.Mirrors currency whole part)
    (means_eq : start.means? currency means = none) (amount : Money) :
    start.Mirrors currency (whole.pay means amount).after part := by
  cases means with
  | payment index =>
      exact mirrors.changePayment_outside (Option.map_eq_none_iff.mp means_eq)
        fun payment => payment.kept_allocate amount
  | creditMemo index =>
      exact mirrors.allocate_outside (Option.map_eq_none_iff.mp means_eq) _
  | purchaseInvoice index =>
      exact mirrors.allocate_outside (Option.map_eq_none_iff.mp means_eq) _

end Documents
end Settlement
