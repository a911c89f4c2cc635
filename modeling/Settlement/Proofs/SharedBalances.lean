import Settlement.Proofs.Exact.Growth

/-!
# Shared balances

A payable has one balance, whether amounts are allocated to it directly or paid with it as a credit
memo or as a purchase invoice; the last two count with the opposite sign.  Recordings of any kinds
add up document by document in whatever order they are made, and leave all other documents alone.
-/

namespace Settlement

/-! ## What is recorded where -/

namespace Recording

/-- The amounts allocated directly to the payable at a place. -/
def direct? (place : Nat) : Recording → Option Amounts
  | allocate index amounts => if index = place then some amounts else none
  | pay _ _ => none

/-- The amount paid with the payable at a place. -/
def through? (place : Nat) : Recording → Option Money
  | pay (.creditMemo index) amount | pay (.purchaseInvoice index) amount =>
      if index = place then some amount else none
  | pay (.payment _) _ | allocate _ _ => none

/-- The amount paid with the payment at a place. -/
def used? (place : Nat) : Recording → Option Money
  | pay (.payment index) amount => if index = place then some amount else none
  | pay (.creditMemo _) _ | pay (.purchaseInvoice _) _ | allocate _ _ => none

theorem direct?_eq_some {place : Nat} {recording : Recording} {amounts : Amounts} :
    recording.direct? place = some amounts ↔ recording = allocate place amounts := by
  cases recording with
  | pay means amount => simp [direct?]
  | allocate index given => simp [direct?]

theorem through?_eq_some {place : Nat} {recording : Recording} {money : Money} :
    recording.through? place = some money ↔
      recording = pay (.creditMemo place) money ∨
        recording = pay (.purchaseInvoice place) money := by
  cases recording with
  | pay means amount => cases means <;> simp [through?]
  | allocate index given => simp [through?]

theorem used?_eq_some {place : Nat} {recording : Recording} {money : Money} :
    recording.used? place = some money ↔ recording = pay (.payment place) money := by
  cases recording with
  | pay means amount => cases means <;> simp [used?]
  | allocate index given => simp [used?]

/-- What is recorded, without signs. -/
def magnitude : Recording → Rat
  | pay _ amount => |amount.amount.value|
  | allocate _ amounts => amounts.magnitude

theorem Fits.magnitude_eq {documents : Documents} {recording : Recording}
    (fits : recording.Fits documents) :
    recording.magnitude = (recording.weight : Rat) / 10 ^ 4 := by
  cases recording with
  | pay means amount =>
      obtain ⟨view, -, exact⟩ := fits
      exact Decimal.abs_value exact.grid
  | allocate index amounts =>
      obtain ⟨payable, -, exact⟩ := fits
      exact exact.onGrid.magnitude_eq

theorem charged_eq (place : Nat) (recording : Recording) :
    recording.charged place = (recording.direct? place).elim 0 Amounts.parts -
      Parts.ofPay ((recording.through? place).elim 0 Money.ticks) := by
  have paid : ∀ (index : Nat) (amount : Money),
      (if index = place then Parts.ofPay (-amount.ticks) else 0) =
        0 - Parts.ofPay ((if index = place then some amount else none).elim 0 Money.ticks) := by
    intro index amount
    split_ifs <;> ext <;> simp
  cases recording with
  | pay means amount =>
      cases means with
      | payment index => rfl
      | creditMemo index => exact paid index amount
      | purchaseInvoice index => exact paid index amount
  | allocate index amounts =>
      rw [charged, direct?]
      split_ifs <;> ext <;> simp [through?]

theorem drawn_eq (place : Nat) (recording : Recording) :
    recording.drawn place = (recording.used? place).elim 0 Money.ticks := by
  cases recording with
  | pay means amount =>
      cases means with
      | payment index =>
          rw [drawn, used?]
          split_ifs <;> rfl
      | creditMemo index => rfl
      | purchaseInvoice index => rfl
  | allocate index amounts => rfl

/-- A debt is charged what is allocated to its payable less what is paid with it. -/
theorem sum_charged (place : Nat) (recordings : List Recording) :
    (recordings.map (charged place)).sum =
      ((recordings.filterMap (direct? place)).map Amounts.parts).sum -
        Parts.ofPay ((recordings.filterMap (through? place)).map Money.ticks).sum := by
  induction recordings with
  | nil => rfl
  | cons recording rest ih =>
      rw [List.map_cons, List.sum_cons, ih, charged_eq, List.filterMap_cons, List.filterMap_cons]
      cases recording.direct? place <;> cases recording.through? place <;> ext <;>
        simp <;> omega

/-- A fund is drawn what is paid with its payment. -/
theorem sum_drawn (place : Nat) (recordings : List Recording) :
    (recordings.map (drawn place)).sum =
      ((recordings.filterMap (used? place)).map Money.ticks).sum := by
  induction recordings with
  | nil => rfl
  | cons recording rest ih =>
      rw [List.map_cons, List.sum_cons, ih, drawn_eq, List.filterMap_cons]
      cases recording.used? place with
      | none => exact Int.zero_add _
      | some amount => rfl

end Recording

/-! ## All documents -/

namespace Documents

/-- All balances of all documents together, without signs. -/
def magnitude (documents : Documents) : Rat :=
  (documents.payables.map Payable.magnitude).sum + (documents.payments.map Payment.magnitude).sum

/-- Exact documents and recordings that fit them, all small together. -/
structure HasRoom (documents : Documents) (recordings : List Recording) : Prop where
  exact : documents.Exact
  fits : ∀ recording ∈ recordings, recording.Fits documents
  small : documents.magnitude + (recordings.map Recording.magnitude).sum < 2 ^ 96 / 10 ^ 4

/-- A document that acts as a payment shows the balance of a payable with the opposite sign. -/
def Shows (documents : Documents) (means : Means) (payable : Payable) : Prop :=
  ∃ view, documents.view means = .ok view ∧ view.remaining.currency = payable.currency ∧
    view.remaining.amount.value = -payable.remaining.pay.amount.value ∧
    (view.isFullyAllocated = true ↔ payable.isFullyAllocated = true)

/-- Every document has grown by what was recorded on it, those on which nothing was recorded are
untouched, and payables are shown as they are by whatever acts as a payment for them. -/
structure Recorded (start : Documents) (recordings : List Recording) (after : Documents) :
    Prop where
  payables_length : after.payables.length = start.payables.length
  payments_length : after.payments.length = start.payments.length
  payables : ∀ (index : Nat) (payable : Payable), start.payables[index]? = some payable →
    ∃ grown, after.payables[index]? = some grown ∧
      payable.Grown (recordings.filterMap (Recording.direct? index))
        (recordings.filterMap (Recording.through? index)) grown
  payments : ∀ (index : Nat) (payment : Payment), start.payments[index]? = some payment →
    ∃ grown, after.payments[index]? = some grown ∧
      payment.Grown (recordings.filterMap (Recording.used? index)) grown
  untouched_payable : ∀ index : Nat,
    (∀ recording ∈ recordings,
      recording.direct? index = none ∧ recording.through? index = none) →
    after.payables[index]? = start.payables[index]?
  untouched_payment : ∀ index : Nat,
    (∀ recording ∈ recordings, recording.used? index = none) →
    after.payments[index]? = start.payments[index]?
  views : ∀ (index : Nat) (payable : Payable), after.payables[index]? = some payable →
    after.Shows (.creditMemo index) payable ∧ after.Shows (.purchaseInvoice index) payable

variable {documents start now : Documents} {recordings taken other : List Recording}

theorem Exact.magnitude_eq (exact : documents.Exact) :
    documents.magnitude = (documents.book.weight : Rat) / 10 ^ 4 := by
  rw [magnitude, sum_map_ticks fun payable mem => (exact.payables payable mem).magnitude_eq,
    sum_map_ticks fun payment mem => (exact.payments payment mem).magnitude_eq, ← add_div,
    ← Nat.cast_add, book, Book.weight, List.map_map, List.map_map]
  rfl

theorem HasRoom.ticks_small (room : documents.HasRoom recordings) :
    documents.book.weight + (recordings.map Recording.weight).sum < coefficientLimit := by
  have small := room.small
  rw [room.exact.magnitude_eq,
    sum_map_ticks fun recording mem => (room.fits recording mem).magnitude_eq, ← add_div,
    div_lt_div_iff_of_pos_right (by norm_num)] at small
  have limit_eq : coefficientLimit = 2 ^ 96 := rfl
  rw [limit_eq]
  exact_mod_cast small

/-! ### What is not recorded on -/

theorem getElem?_changeEntry_ne {α : Type} {entries : List α} {index place : Nat}
    (change : α → Attempt α) (ne : index ≠ place) :
    (changeEntry entries index change).after[place]? = entries[place]? := by
  unfold changeEntry
  split
  · exact List.getElem?_set_ne ne
  · rfl

theorem untouched_apply {recording : Recording} {index : Nat}
    (direct : recording.direct? index = none) (through : recording.through? index = none) :
    (recording.apply now).after.payables[index]? = now.payables[index]? := by
  cases recording with
  | pay means amount =>
      cases means with
      | payment place => rfl
      | creditMemo place =>
          have ne : place ≠ index := fun same => by simp [Recording.through?, same] at through
          exact getElem?_changeEntry_ne _ ne
      | purchaseInvoice place =>
          have ne : place ≠ index := fun same => by simp [Recording.through?, same] at through
          exact getElem?_changeEntry_ne _ ne
  | allocate place amounts =>
      have ne : place ≠ index := fun same => by simp [Recording.direct?, same] at direct
      exact getElem?_changeEntry_ne _ ne

theorem untouched_payment_apply {recording : Recording} {index : Nat}
    (unused : recording.used? index = none) :
    (recording.apply now).after.payments[index]? = now.payments[index]? := by
  cases recording with
  | pay means amount =>
      cases means with
      | payment place =>
          have ne : place ≠ index := fun same => by simp [Recording.used?, same] at unused
          exact getElem?_changeEntry_ne _ ne
      | creditMemo place => rfl
      | purchaseInvoice place => rfl
  | allocate place amounts => rfl

theorem resets_apply (recording : Recording) :
    (recording.apply now).after.resets = now.resets := by
  cases recording with
  | pay means amount => exact now.resets_pay means amount
  | allocate index amounts => exact now.resets_allocate index amounts

theorem paymentResets_apply (recording : Recording) :
    (recording.apply now).after.paymentResets = now.paymentResets := by
  cases recording with
  | pay means amount => exact now.paymentResets_pay means amount
  | allocate index amounts => rfl

/-- What each recording keeps holds after all of them. -/
theorem holds_recordAll (start : Documents) (taken : List Recording)
    (property : Documents → Prop) (holds : property start)
    (keeps : ∀ recording ∈ taken, ∀ now, property now → property (recording.apply now).after) :
    property (start.recordAll taken).after := by
  induction taken using List.reverseRecOn with
  | nil => exact holds
  | append_singleton taken recording ih =>
      rw [recordAll_concat]
      apply Attempt.holds_andThen property
      · exact ih fun other mem => keeps other (by simp [mem])
      · exact keeps recording (by simp)

theorem resets_recordAll (start : Documents) (taken : List Recording) :
    (start.recordAll taken).after.resets = start.resets :=
  holds_recordAll start taken (fun now => now.resets = start.resets) rfl
    fun recording _ _ same => (resets_apply recording).trans same

theorem paymentResets_recordAll (start : Documents) (taken : List Recording) :
    (start.recordAll taken).after.paymentResets = start.paymentResets :=
  holds_recordAll start taken (fun now => now.paymentResets = start.paymentResets) rfl
    fun recording _ _ same => (paymentResets_apply recording).trans same

/-! ### What is recorded on -/

/-- What fits documents is in the currency of the document that it is recorded on. -/
theorem direct_exact (fits : ∀ recording ∈ taken, recording.Fits start) {index : Nat}
    {payable : Payable} (payable_eq : start.payables[index]? = some payable) :
    ∀ amounts ∈ taken.filterMap (Recording.direct? index), amounts.Exact payable.currency := by
  intro amounts mem
  obtain ⟨recording, recording_mem, direct⟩ := List.mem_filterMap.mp mem
  obtain rfl := Recording.direct?_eq_some.mp direct
  obtain ⟨found, found_eq, exact⟩ := fits _ recording_mem
  rw [payable_eq_ok payable_eq] at found_eq
  cases found_eq
  exact exact

theorem through_exact (fits : ∀ recording ∈ taken, recording.Fits start) {index : Nat}
    {payable : Payable} (payable_eq : start.payables[index]? = some payable) :
    ∀ money ∈ taken.filterMap (Recording.through? index), money.Exact payable.currency := by
  intro money mem
  obtain ⟨recording, recording_mem, through⟩ := List.mem_filterMap.mp mem
  obtain rfl | rfl := Recording.through?_eq_some.mp through <;>
    obtain ⟨view, view_eq, exact⟩ := fits _ recording_mem <;>
    rw [Documents.view, payable_eq_ok payable_eq] at view_eq <;>
    cases view_eq <;>
    exact exact

theorem used_exact (fits : ∀ recording ∈ taken, recording.Fits start) {index : Nat}
    {payment : Payment} (payment_eq : start.payments[index]? = some payment) :
    ∀ money ∈ taken.filterMap (Recording.used? index), money.Exact payment.currency := by
  intro money mem
  obtain ⟨recording, recording_mem, used⟩ := List.mem_filterMap.mp mem
  obtain rfl := Recording.used?_eq_some.mp used
  obtain ⟨view, view_eq, exact⟩ := fits _ recording_mem
  rw [Documents.view, payment_eq_ok payment_eq] at view_eq
  cases view_eq
  exact exact

/-- A payable is shown with the opposite sign by whatever acts as a payment for it. -/
theorem Exact.shows (exact : now.Exact) {index : Nat} {payable : Payable}
    (payable_eq : now.payables[index]? = some payable) :
    now.Shows (.creditMemo index) payable ∧ now.Shows (.purchaseInvoice index) payable := by
  have remaining_exact := (exact.payable_exact payable_eq).remaining.pay
  have value_eq : payable.remaining.pay.neg.amount.value =
      -payable.remaining.pay.amount.value := by
    rw [remaining_exact.neg.value_eq, remaining_exact.value_eq, Money.ticks_neg remaining_exact,
      Int.cast_neg, neg_div]
  refine ⟨⟨.creditMemo payable, ?_, remaining_exact.neg.currency_eq, value_eq, Iff.rfl⟩,
    ⟨.purchaseInvoice payable, ?_, remaining_exact.neg.currency_eq, value_eq, Iff.rfl⟩⟩
  · rw [view, payable_eq_ok payable_eq]
    rfl
  · rw [view, payable_eq_ok payable_eq]
    rfl

theorem Posted.recorded (posted : start.Posted taken now) (exact : start.Exact)
    (fits : ∀ recording ∈ taken, recording.Fits start)
    (now_eq : start.recordAll taken = .complete now) : start.Recorded taken now := by
  have resets_eq := resets_recordAll start taken
  have paymentResets_eq := paymentResets_recordAll start taken
  rw [now_eq, Attempt.after_complete] at resets_eq paymentResets_eq
  refine
    { payables_length := by simpa [resets] using congrArg List.length resets_eq
      payments_length := by simpa [paymentResets] using congrArg List.length paymentResets_eq
      payables := ?_
      payments := ?_
      untouched_payable := ?_
      untouched_payment := ?_
      views := fun index payable payable_eq => posted.exact.shows payable_eq }
  · intro index payable payable_eq
    obtain ⟨grown, grown_eq, grown_exact, grown_debt⟩ := posted.payable payable_eq
    have reset_eq := now.getElem?_resets grown_eq
    rw [resets_eq, start.getElem?_resets payable_eq, Option.some.injEq] at reset_eq
    rw [Recording.sum_charged] at grown_debt
    exact ⟨grown, grown_eq, Payable.grown_of_charge (exact.payable_exact payable_eq) grown_exact
      reset_eq.symm (direct_exact fits payable_eq) (through_exact fits payable_eq) grown_debt⟩
  · intro index payment payment_eq
    obtain ⟨grown, grown_eq, grown_exact, grown_fund⟩ := posted.payment payment_eq
    have reset_eq := now.getElem?_paymentResets grown_eq
    rw [paymentResets_eq, start.getElem?_paymentResets payment_eq, Option.some.injEq] at reset_eq
    rw [Recording.sum_drawn] at grown_fund
    exact ⟨grown, grown_eq, Payment.grown_of_draw (exact.payment_exact payment_eq) grown_exact
      reset_eq.symm (used_exact fits payment_eq) grown_fund⟩
  · intro index elsewhere
    have kept := holds_recordAll start taken
      (fun now => now.payables[index]? = start.payables[index]?) rfl
      fun recording mem now same =>
        (untouched_apply (elsewhere recording mem).1 (elsewhere recording mem).2).trans same
    rwa [now_eq] at kept
  · intro index unused
    have kept := holds_recordAll start taken
      (fun now => now.payments[index]? = start.payments[index]?) rfl
      fun recording mem now same => (untouched_payment_apply (unused recording mem)).trans same
    rwa [now_eq] at kept

/-- Documents with the same terms that are read as one book have the same values. -/
theorem sameValue_of_book_eq {documents' : Documents} (exact : documents.Exact)
    (exact' : documents'.Exact) (resets_eq : documents.resets = documents'.resets)
    (paymentResets_eq : documents.paymentResets = documents'.paymentResets)
    (book_eq : documents.book = documents'.book) : documents.SameValue documents' where
  payables := by
    have debts_eq : documents.payables.map Payable.debt = documents'.payables.map Payable.debt :=
      congrArg Book.debts book_eq
    apply (forall₂_and (forall₂_of_map_eq resets_eq) (forall₂_of_map_eq debts_eq)).imp
    rintro payable payable' ⟨⟨mem, mem', reset_eq⟩, -, -, debt_eq⟩
    exact Payable.sameValue_of_debt_eq (exact.payables payable mem) (exact'.payables payable' mem')
      reset_eq debt_eq
  payments := by
    have funds_eq : documents.payments.map Payment.fund = documents'.payments.map Payment.fund :=
      congrArg Book.funds book_eq
    apply (forall₂_and (forall₂_of_map_eq paymentResets_eq) (forall₂_of_map_eq funds_eq)).imp
    rintro payment payment' ⟨⟨mem, mem', reset_eq⟩, -, -, fund_eq⟩
    exact Payment.sameValue_of_fund_eq (exact.payments payment mem) (exact'.payments payment' mem')
      reset_eq fund_eq

/-- Documents on which the same has been recorded in any order have the same values. -/
theorem Posted.sameValue {now' : Documents} (posted : start.Posted taken now)
    (posted' : start.Posted other now') (now_eq : start.recordAll taken = .complete now)
    (now_eq' : start.recordAll other = .complete now') (same : taken.Perm other) :
    now.SameValue now' := by
  have resets_eq := resets_recordAll start taken
  have paymentResets_eq := paymentResets_recordAll start taken
  have resets_eq' := resets_recordAll start other
  have paymentResets_eq' := paymentResets_recordAll start other
  rw [now_eq, Attempt.after_complete] at resets_eq paymentResets_eq
  rw [now_eq', Attempt.after_complete] at resets_eq' paymentResets_eq'
  exact sameValue_of_book_eq posted.exact posted'.exact (resets_eq.trans resets_eq'.symm)
    (paymentResets_eq.trans paymentResets_eq'.symm) (posted.book.unique posted'.book same)

/-- Recordings add up document by document after each of them, whatever they are made through, and
any other order of them leads to the same values. -/
theorem recordings_share_balances (documents : Documents) (recordings : List Recording)
    (room : documents.HasRoom recordings) :
    (∀ taken, taken <+: recordings →
      ∃ after, documents.recordAll taken = .complete after ∧ documents.Recorded taken after) ∧
    ∀ other, recordings.Perm other → ∃ after after',
      documents.recordAll recordings = .complete after ∧
        documents.recordAll other = .complete after' ∧ after.SameValue after' := by
  have small := room.ticks_small
  constructor
  · rintro taken ⟨rest, rfl⟩
    have fits : ∀ recording ∈ taken, recording.Fits documents := fun recording mem =>
      room.fits recording (List.mem_append_left rest mem)
    rw [List.map_append, List.sum_append] at small
    obtain ⟨after, after_eq, posted⟩ := room.exact.recordAll fits (by omega)
    exact ⟨after, after_eq, posted.recorded room.exact fits after_eq⟩
  · intro other same
    obtain ⟨after, after_eq, posted⟩ := room.exact.recordAll room.fits small
    have other_fits : ∀ recording ∈ other, recording.Fits documents := fun recording mem =>
      room.fits recording (same.mem_iff.mpr mem)
    rw [(same.map Recording.weight).sum_eq] at small
    obtain ⟨after', after_eq', posted'⟩ := room.exact.recordAll other_fits small
    exact ⟨after, after', after_eq, after_eq', posted.sameValue posted' after_eq after_eq' same⟩

end Documents

namespace Samples

/-- Recordings that reach the credit memo directly and as two means of payment, and an invoice, a
bill and a payment besides. -/
def recordings : List Recording :=
  [.pay (.creditMemo 1) (.ofMinor 2000 .usd), .allocate 1 (minorAmounts .usd (-500) 50 0),
    .pay (.purchaseInvoice 1) (.ofMinor (-300) .usd), .pay (.payment 0) (.ofMinor 7000 .usd),
    .pay (.purchaseInvoice 2) (.ofMinor 2000 .usd), .allocate 0 (minorAmounts .usd 9000 200 0)]

theorem documents_hasRoom : documents.HasRoom recordings where
  exact := documents_fresh.exact
  fits := by
    simp only [recordings, List.forall_mem_cons, List.not_mem_nil, false_imp_iff, implies_true,
      and_true]
    exact ⟨⟨_, rfl, rfl, Money.onGrid_ofMinor ..⟩,
      ⟨_, rfl, ⟨rfl, Money.onGrid_ofMinor ..⟩, ⟨rfl, Money.onGrid_ofMinor ..⟩,
        ⟨rfl, Money.onGrid_ofMinor ..⟩⟩,
      ⟨_, rfl, rfl, Money.onGrid_ofMinor ..⟩, ⟨_, rfl, rfl, Money.onGrid_ofMinor ..⟩,
      ⟨_, rfl, rfl, Money.onGrid_ofMinor ..⟩,
      ⟨_, rfl, ⟨rfl, Money.onGrid_ofMinor ..⟩, ⟨rfl, Money.onGrid_ofMinor ..⟩,
        ⟨rfl, Money.onGrid_ofMinor ..⟩⟩⟩
  small := by decide +kernel

/-- The sample recordings add up in the order in which they stand, and backwards they lead to the
same values. -/
theorem samples_share_balances :
    documents.HasRoom recordings ∧ recordings.Perm recordings.reverse ∧
      recordings.filterMap (Recording.through? 1) = [.ofMinor 2000 .usd, .ofMinor (-300) .usd] ∧
      (∃ after, documents.recordAll recordings = .complete after ∧
        documents.Recorded recordings after) ∧
      ∃ after after', documents.recordAll recordings = .complete after ∧
        documents.recordAll recordings.reverse = .complete after' ∧ after.SameValue after' := by
  obtain ⟨each, reordered⟩ :=
    Documents.recordings_share_balances documents recordings documents_hasRoom
  exact ⟨documents_hasRoom, recordings.reverse_perm.symm, rfl, each _ List.prefix_rfl,
    reordered _ recordings.reverse_perm.symm⟩

end Samples
end Settlement
