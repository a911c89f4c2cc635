import Settlement.Proofs.Exact.History
import Settlement.Proofs.Exact.Pointwise

/-!
# Sound books

A debt is sound when what is left, what has been paid and what has been waived of its pay amount
all lie between nothing and the initial amount, when discount and write-off account for what was
waived, and when its amounts are small together.  Every deal of a well-placed step turns a sound
book into a later sound one, in which nothing that is left has grown.
-/

namespace Settlement

/-- An amount lies between nothing and a bound: it has no other sign and no larger magnitude. -/
def Within (amount bound : Int) : Prop :=
  (0 ≤ amount ∧ amount ≤ bound) ∨ (bound ≤ amount ∧ amount ≤ 0)

theorem Within.refl (amount : Int) : Within amount amount := by
  unfold Within
  omega

theorem Within.trans {amount middle bound : Int} (inner : Within amount middle)
    (outer : Within middle bound) : Within amount bound := by
  unfold Within at *
  omega

theorem Within.neg {amount bound : Int} (within : Within amount bound) :
    Within (-amount) (-bound) := by
  unfold Within at *
  omega

theorem Within.eq_zero {amount : Int} (within : Within amount 0) : amount = 0 := by
  unfold Within at within
  omega

theorem within_zero (bound : Int) : Within 0 bound := by
  unfold Within
  omega

/-- Taking off a part leaves a part. -/
theorem Within.sub {amount bound : Int} (within : Within amount bound) :
    Within (bound - amount) bound := by
  unfold Within at *
  omega

theorem Within.natAbs_le {amount bound : Int} (within : Within amount bound) :
    amount.natAbs ≤ bound.natAbs := by
  unfold Within at within
  omega

/-! ## Debts -/

namespace Debt

/-- What was waived of a debt, where it went to the policy's target, and nothing otherwise. -/
def waivedTo (policy target : LeftoverPolicy) (debt : Debt) : Int :=
  if policy = target then debt.waived else 0

/-- The balances of a debt agree with each other, whatever has been settled so far. -/
structure Sound (policy : LeftoverPolicy) (debt : Debt) : Prop where
  /-- All amounts of the debt are small together. -/
  small : debt.openAmount.natAbs + debt.initial.magnitude < coefficientLimit
  remaining_within : Within debt.remaining.pay debt.initial.pay
  allocated_within : Within debt.allocated.pay debt.initial.pay
  waived_within : Within debt.waived debt.initial.pay
  /-- Nothing is waived unless the policy says where it goes. -/
  waived_open : policy = .leaveOpen → debt.waived = 0
  /-- Once something is waived, nothing is left to pay. -/
  waived_settled : debt.waived ≠ 0 → debt.remaining.pay = 0
  discount_balance : debt.allocated.discount + debt.remaining.discount =
    debt.initial.discount + debt.waivedTo policy .discount
  writeOff_balance : debt.allocated.writeOff + debt.remaining.writeOff =
    debt.initial.writeOff + debt.waivedTo policy .writeOff
  /-- Discount and write-off are taken together and as a whole. -/
  extras : (debt.remaining.discount = debt.initial.discount ∧
      debt.remaining.writeOff = debt.initial.writeOff) ∨
    (debt.remaining.discount = 0 ∧ debt.remaining.writeOff = 0)

/-- A debt after some more deals: it says the same, and nothing that is left has grown. -/
structure Later (policy : LeftoverPolicy) (before after : Debt) : Prop where
  terms_eq : after.toTerms = before.toTerms
  pay : Within after.remaining.pay before.remaining.pay
  discount : after.remaining.discount = 0 ∨ after.remaining.discount = before.remaining.discount
  writeOff : after.remaining.writeOff = 0 ∨ after.remaining.writeOff = before.remaining.writeOff
  sound : after.Sound policy

theorem Later.refl {policy : LeftoverPolicy} {debt : Debt} (sound : debt.Sound policy) :
    Later policy debt debt :=
  ⟨rfl, Within.refl _, .inr rfl, .inr rfl, sound⟩

theorem Later.trans {policy : LeftoverPolicy} {first second third : Debt}
    (early : Later policy first second) (late : Later policy second third) :
    Later policy first third where
  terms_eq := late.terms_eq.trans early.terms_eq
  pay := late.pay.trans early.pay
  discount := late.discount.elim .inl fun kept => kept ▸ early.discount
  writeOff := late.writeOff.elim .inl fun kept => kept ▸ early.writeOff
  sound := late.sound

variable {policy : LeftoverPolicy} {debt : Debt}

@[simp]
theorem waived_charge (parts : Parts) : (debt.charge parts).waived = debt.waived := by
  simp only [waived, charge, Parts.pay_add, Parts.pay_sub]
  omega

@[simp]
theorem waivedTo_charge (target : LeftoverPolicy) (parts : Parts) :
    (debt.charge parts).waivedTo policy target = debt.waivedTo policy target := by
  simp only [waivedTo, waived_charge]

theorem natAbs_waivedTo_add (sound : debt.Sound policy) :
    (debt.waivedTo policy .discount).natAbs + (debt.waivedTo policy .writeOff).natAbs =
      debt.waived.natAbs := by
  have none_open := sound.waived_open
  cases policy <;> simp_all [waivedTo]

/-- What is left, what has been paid and what has been waived make up the initial amount. -/
theorem natAbs_pay_add (sound : debt.Sound policy) :
    debt.remaining.pay.natAbs + debt.allocated.pay.natAbs + debt.waived.natAbs =
      debt.initial.pay.natAbs := by
  have remaining := sound.remaining_within
  have allocated := sound.allocated_within
  have waived_within := sound.waived_within
  simp only [Within, waived] at *
  omega

/-- What was taken of an amount as a whole, and what was waived into it, bound what has been
allocated. -/
theorem natAbs_le_of_balance {allocated remaining initial waived : Int}
    (balance : allocated + remaining = initial + waived)
    (whole : remaining = initial ∨ remaining = 0) :
    allocated.natAbs ≤ initial.natAbs + waived.natAbs := by
  rcases whole with rfl | rfl <;> omega

/-- What has been allocated is small. -/
theorem Sound.allocated_small (sound : debt.Sound policy) :
    debt.openAmount.natAbs + debt.allocated.magnitude < coefficientLimit := by
  have small := sound.small
  have waived_eq := natAbs_waivedTo_add sound
  have pay_eq := natAbs_pay_add sound
  have discount_le := natAbs_le_of_balance sound.discount_balance
    (sound.extras.imp And.left And.left)
  have writeOff_le := natAbs_le_of_balance sound.writeOff_balance
    (sound.extras.imp And.right And.right)
  have left_nonneg := Nat.zero_le debt.remaining.pay.natAbs
  simp only [Parts.magnitude] at small ⊢
  linarith

/-- What is left is small. -/
theorem Sound.remaining_small (sound : debt.Sound policy) :
    debt.openAmount.natAbs + debt.remaining.magnitude < coefficientLimit := by
  have small := sound.small
  have pay_eq := natAbs_pay_add sound
  have paid_nonneg := Nat.zero_le debt.allocated.pay.natAbs
  have waived_nonneg := Nat.zero_le debt.waived.natAbs
  have discount_le : debt.remaining.discount.natAbs ≤ debt.initial.discount.natAbs := by
    rcases sound.extras with ⟨kept, -⟩ | ⟨taken, -⟩
    · exact kept ▸ le_rfl
    · exact taken ▸ Nat.zero_le _
  have writeOff_le : debt.remaining.writeOff.natAbs ≤ debt.initial.writeOff.natAbs := by
    rcases sound.extras with ⟨-, kept⟩ | ⟨-, taken⟩
    · exact kept ▸ le_rfl
    · exact taken ▸ Nat.zero_le _
  simp only [Parts.magnitude] at small ⊢
  linarith

/-- While something is left to pay, nothing has been waived. -/
theorem Sound.waived_eq_zero (sound : debt.Sound policy) (debt_open : debt.IsOpen) :
    debt.waived = 0 :=
  by_contra fun waived => debt_open (sound.waived_settled waived)

/-- A part of what is left is paid, and discount and write-off are taken with it or stay. -/
theorem later_charge (sound : debt.Sound policy) {parts : Parts}
    (within : Within parts.pay debt.remaining.pay)
    (extras : (parts.discount = debt.remaining.discount ∧
        parts.writeOff = debt.remaining.writeOff) ∨
      (parts.discount = 0 ∧ parts.writeOff = 0)) : Later policy debt (debt.charge parts) where
  terms_eq := rfl
  pay := within.sub
  discount := by
    simp only [remaining_charge, Parts.discount_sub]
    omega
  writeOff := by
    simp only [remaining_charge, Parts.writeOff_sub]
    omega
  sound := by
    have waived_eq : (debt.charge parts).waived = debt.waived := waived_charge parts
    refine
      { small := sound.small
        remaining_within := within.sub.trans sound.remaining_within
        allocated_within := ?_
        waived_within := waived_eq ▸ sound.waived_within
        waived_open := waived_eq ▸ sound.waived_open
        waived_settled := ?_
        discount_balance := ?_
        writeOff_balance := ?_
        extras := ?_ }
    · have remaining := sound.remaining_within
      have allocated := sound.allocated_within
      have waived_within := sound.waived_within
      simp only [Within, waived, allocated_charge, Parts.pay_add, terms_charge] at *
      omega
    · intro waived
      have nothing := sound.waived_settled (waived_eq ▸ waived)
      rw [nothing] at within
      simp [nothing, within.eq_zero]
    · rw [waivedTo_charge, terms_charge, ← sound.discount_balance]
      simp only [allocated_charge, remaining_charge, Parts.discount_add, Parts.discount_sub]
      omega
    · rw [waivedTo_charge, terms_charge, ← sound.writeOff_balance]
      simp only [allocated_charge, remaining_charge, Parts.writeOff_add, Parts.writeOff_sub]
      omega
    · have carried := sound.extras
      simp only [remaining_charge, Parts.discount_sub, Parts.writeOff_sub, terms_charge]
      omega

/-- What is left to pay is moved where the policy says, and everything is settled. -/
theorem later_charge_move (sound : debt.Sound policy) (debt_open : debt.IsOpen)
    (moves : policy ≠ .leaveOpen) :
    Later policy debt ((debt.move policy).charge (debt.move policy).remaining) := by
  have nothing_left : ((debt.move policy).charge (debt.move policy).remaining).remaining = 0 :=
    sub_self _
  have allocated_pay :
      ((debt.move policy).charge (debt.move policy).remaining).allocated.pay =
        debt.allocated.pay := by
    cases policy <;> simp_all [move]
  have nothing_waived := sound.waived_eq_zero debt_open
  have waived_eq : ((debt.move policy).charge (debt.move policy).remaining).waived =
      debt.remaining.pay := by
    rw [waived, nothing_left, allocated_pay]
    simp only [waived] at nothing_waived
    simp only [terms_charge, terms_move, Parts.pay_zero]
    omega
  refine ⟨by simp, ?_, .inl ?_, .inl ?_, ?_⟩
  · rw [nothing_left]
    exact within_zero _
  · rw [nothing_left]
    rfl
  · rw [nothing_left]
    rfl
  refine
    { small := by simpa using sound.small
      remaining_within := by
        rw [nothing_left]
        exact within_zero _
      allocated_within := by
        rw [allocated_pay]
        simpa using sound.allocated_within
      waived_within := by
        rw [waived_eq]
        simpa using sound.remaining_within
      waived_open := fun leaves => absurd leaves moves
      waived_settled := fun _ => by
        rw [nothing_left]
        rfl
      discount_balance := ?_
      writeOff_balance := ?_
      extras := .inr (by
        rw [nothing_left]
        exact ⟨rfl, rfl⟩) }
  · have balance := sound.discount_balance
    rw [nothing_left, waivedTo, waived_eq]
    rw [waivedTo, nothing_waived] at balance
    cases policy <;> simp_all [move]
    omega
  · have balance := sound.writeOff_balance
    rw [nothing_left, waivedTo, waived_eq]
    rw [waivedTo, nothing_waived] at balance
    cases policy <;> simp_all [move]
    omega

end Debt

/-! ## Funds -/

namespace Fund

/-- The balances of a fund agree with each other. -/
structure Sound (fund : Fund) : Prop where
  /-- All amounts of the fund are small together. -/
  small : fund.openAmount.natAbs + fund.initial.natAbs < coefficientLimit
  remaining_within : Within fund.remaining fund.initial
  balance : fund.allocated + fund.remaining = fund.initial

/-- A fund after some more deals: it says the same, and what is left has not grown. -/
structure Later (before after : Fund) : Prop where
  terms_eq : after.toTerms = before.toTerms
  remaining : Within after.remaining before.remaining
  sound : after.Sound

theorem Later.refl {fund : Fund} (sound : fund.Sound) : Later fund fund :=
  ⟨rfl, Within.refl _, sound⟩

theorem Later.trans {first second third : Fund} (early : Later first second)
    (late : Later second third) : Later first third :=
  ⟨late.terms_eq.trans early.terms_eq, late.remaining.trans early.remaining, late.sound⟩

theorem Sound.allocated_within {fund : Fund} (sound : fund.Sound) :
    Within fund.allocated fund.initial := by
  have within := sound.remaining_within.sub
  rwa [← sound.balance, Int.add_sub_cancel, sound.balance] at within

/-- A part of what is left is drawn. -/
theorem later_draw {fund : Fund} (sound : fund.Sound) {amount : Int}
    (within : Within amount fund.remaining) : Later fund (fund.draw amount) where
  terms_eq := rfl
  remaining := within.sub
  sound :=
    { small := sound.small
      remaining_within := within.sub.trans sound.remaining_within
      balance := by
        have balance := sound.balance
        simp only [draw]
        omega }

end Fund

/-! ## Sources -/

namespace Source

theorem share_within_debt (source : Source) (debt : Debt) :
    Within (source.share debt) debt.remaining.pay := by
  unfold share Within
  split_ifs <;> omega

theorem share_within_source (source : Source) (debt : Debt) :
    Within (source.share debt) source.remaining := by
  unfold share Within
  split_ifs <;> omega

theorem currency_of_fits {source : Source} {debt : Debt} (fits : source.Fits debt) :
    source.currency = debt.currency := by
  cases source with
  | fund fund => exact Eq.symm fits.1
  | creditMemo memo => exact fits.1.2.2.symm
  | purchaseInvoice bill => exact fits.1.2.2.symm

end Source

/-! ## Books -/

namespace Book

/-- All documents of a book are sound. -/
structure Sound (policy : LeftoverPolicy) (book : Book) : Prop where
  debts : ∀ debt ∈ book.debts, debt.Sound policy
  funds : ∀ fund ∈ book.funds, fund.Sound

/-- A book after some more deals, document by document. -/
structure Later (policy : LeftoverPolicy) (before after : Book) : Prop where
  debts : List.Forall₂ (Debt.Later policy) before.debts after.debts
  funds : List.Forall₂ Fund.Later before.funds after.funds

variable {policy : LeftoverPolicy} {before book after : Book}

theorem Later.refl (sound : book.Sound policy) : Later policy book book :=
  ⟨List.forall₂_same.mpr fun debt mem => .refl (sound.debts debt mem),
    List.forall₂_same.mpr fun fund mem => .refl (sound.funds fund mem)⟩

theorem Later.trans (early : Later policy before book) (late : Later policy book after) :
    Later policy before after :=
  ⟨forall₂_trans (fun _ _ _ => Debt.Later.trans) early.debts late.debts,
    forall₂_trans (fun _ _ _ => Fund.Later.trans) early.funds late.funds⟩

theorem Later.sound (later : Later policy before after) : after.Sound policy where
  debts _ mem :=
    let ⟨_, _, step⟩ := forall₂_mem_right later.debts mem
    step.sound
  funds _ mem :=
    let ⟨_, _, step⟩ := forall₂_mem_right later.funds mem
    step.sound

theorem Sound.debt (sound : book.Sound policy) {index : Nat} {debt : Debt}
    (debt_eq : book.debts[index]? = some debt) : debt.Sound policy :=
  sound.debts debt (List.mem_of_getElem? debt_eq)

theorem Sound.fund (sound : book.Sound policy) {index : Nat} {fund : Fund}
    (fund_eq : book.funds[index]? = some fund) : fund.Sound :=
  sound.funds fund (List.mem_of_getElem? fund_eq)

/-- A later state of one debt makes a later book. -/
theorem later_changeDebt (sound : book.Sound policy) {index : Nat} {change : Debt → Debt}
    (changed : ∀ debt, book.debts[index]? = some debt → Debt.Later policy debt (change debt)) :
    Later policy book (book.changeDebt index change) where
  debts := forall₂_modify (fun debt mem => .refl (sound.debts debt mem)) changed
  funds := (Later.refl sound).funds

/-- A later state of one fund makes a later book. -/
theorem later_changeFund (sound : book.Sound policy) {index : Nat} {change : Fund → Fund}
    (changed : ∀ fund, book.funds[index]? = some fund → Fund.Later fund (change fund)) :
    Later policy book (book.changeFund index change) where
  debts := (Later.refl sound).debts
  funds := forall₂_modify (fun fund mem => .refl (sound.funds fund mem)) changed

theorem getElem?_charge_ne {index other : Nat} (ne : index ≠ other) (parts : Parts) :
    (book.charge index parts).debts[other]? = book.debts[other]? :=
  List.getElem?_modify_ne _ _ ne

theorem getElem?_changeFund_ne {index other : Nat} (ne : index ≠ other) (change : Fund → Fund) :
    (book.changeFund index change).funds[other]? = book.funds[other]? :=
  List.getElem?_modify_ne _ _ ne

/-- A document that serves as a means of payment is not the debt that it pays. -/
theorem Serves.ne_creditMemo {kind : CandidateKind} {index other : Nat}
    (serves : book.Serves kind index (.creditMemo other)) : index ≠ other := by
  rintro rfl
  cases kind with
  | invoiceToCreditMemo =>
      obtain ⟨⟨debt, debt_eq, plain⟩, memo, memo_eq, credit⟩ := serves
      rw [Option.some.inj (debt_eq.symm.trans memo_eq), credit] at plain
      cases plain
  | _ => exact serves

theorem Serves.ne_purchaseInvoice {kind : CandidateKind} {index other : Nat}
    (serves : book.Serves kind index (.purchaseInvoice other)) : index ≠ other := by
  rintro rfl
  cases kind with
  | salesInvoiceToPurchaseInvoice =>
      obtain ⟨⟨debt, debt_eq, -, sales⟩, bill, bill_eq, -, purchase⟩ := serves
      rw [Option.some.inj (debt_eq.symm.trans bill_eq), purchase] at sales
      cases sales
  | _ => exact serves

theorem Serves.kind_eq {kind : CandidateKind} {index : Nat} {means : Means}
    (serves : book.Serves kind index means) : kind = means.pairingKind := by
  unfold Serves at serves
  split at serves
  · rfl
  · rfl
  · rfl
  · exact serves.elim

/-- A kind of pairing names a debt of the book. -/
theorem Serves.debt {kind : CandidateKind} {index : Nat} {means : Means}
    (serves : book.Serves kind index means) : ∃ debt, book.debts[index]? = some debt := by
  unfold Serves at serves
  split at serves
  · exact ⟨_, serves.1.choose_spec.1⟩
  · exact ⟨_, serves.1.choose_spec.1⟩
  · exact ⟨_, List.getElem?_eq_getElem serves.1⟩
  · exact serves.elim

/-- A kind of pairing names a document of the book that acts as a payment. -/
theorem Serves.source {kind : CandidateKind} {index : Nat} {means : Means}
    (serves : book.Serves kind index means) : ∃ source, book.source? means = some source := by
  unfold Serves at serves
  split at serves
  · obtain ⟨-, memo, memo_eq, -⟩ := serves
    exact ⟨_, congrArg (Option.map Source.creditMemo) memo_eq⟩
  · obtain ⟨-, bill, bill_eq, -⟩ := serves
    exact ⟨_, congrArg (Option.map Source.purchaseInvoice) bill_eq⟩
  · exact ⟨_, congrArg (Option.map Source.fund) (List.getElem?_eq_getElem serves.2)⟩
  · exact serves.elim

/-- What a debt is charged does not change the document that pays it. -/
theorem Serves.source?_charge {kind : CandidateKind} {index : Nat} {means : Means}
    (serves : book.Serves kind index means) (parts : Parts) :
    (book.charge index parts).source? means = book.source? means := by
  cases means with
  | payment other => rfl
  | creditMemo other => rw [source?, source?, getElem?_charge_ne serves.ne_creditMemo]
  | purchaseInvoice other => rw [source?, source?, getElem?_charge_ne serves.ne_purchaseInvoice]

/-- A debt that acts as a payment is later once its share is drawn from it. -/
theorem later_draw_debt (sound : book.Sound policy) {other : Nat} {amount : Int}
    (within : ∀ debt, book.debts[other]? = some debt → Within amount (-debt.remaining.pay)) :
    Later policy book (book.charge other (Parts.ofPay (-amount))) := by
  apply later_changeDebt sound
  intro debt debt_eq
  refine Debt.later_charge (sound.debt debt_eq) ?_ (.inr ⟨rfl, rfl⟩)
  simpa using (within debt debt_eq).neg

/-- A debt is later once a document has taken its share of it. -/
theorem later_offer (sound : book.Sound policy) {index : Nat} {debt : Debt} (source : Source)
    (debt_eq : book.debts[index]? = some debt) :
    Later policy book (book.charge index (offer debt source)) := by
  apply later_changeDebt sound
  intro found found_eq
  rw [show found = debt from Option.some.inj (found_eq.symm.trans debt_eq)]
  exact Debt.later_charge (sound.debt debt_eq) (source.share_within_debt debt) (.inl ⟨rfl, rfl⟩)

/-- A pairing makes the book later. -/
theorem later_pair (sound : book.Sound policy) {kind : CandidateKind} {index : Nat}
    {means : Means} (serves : book.Serves kind index means) {debt : Debt} {source : Source}
    (debt_eq : book.debts[index]? = some debt) (source_eq : book.source? means = some source) :
    Later policy book
      ((book.charge index (offer debt source)).draw means (source.share debt)) := by
  have charged := later_offer sound source debt_eq
  apply charged.trans
  cases means with
  | payment other =>
      apply later_changeFund charged.sound
      intro found found_eq
      simp only [source?, Option.map_eq_some_iff] at source_eq
      obtain ⟨fund, fund_eq, rfl⟩ := source_eq
      rw [show found = fund from Option.some.inj (found_eq.symm.trans fund_eq)]
      exact Fund.later_draw (sound.fund fund_eq) (Source.share_within_source (.fund fund) debt)
  | creditMemo other =>
      apply later_draw_debt charged.sound
      intro found found_eq
      rw [getElem?_charge_ne serves.ne_creditMemo] at found_eq
      simp only [source?, found_eq, Option.map_some, Option.some.injEq] at source_eq
      exact source_eq ▸ Source.share_within_source (.creditMemo found) debt
  | purchaseInvoice other =>
      apply later_draw_debt charged.sound
      intro found found_eq
      rw [getElem?_charge_ne serves.ne_purchaseInvoice] at found_eq
      simp only [source?, found_eq, Option.map_some, Option.some.injEq] at source_eq
      exact source_eq ▸ Source.share_within_source (.purchaseInvoice found) debt

/-- What is left of a debt is moved and settled. -/
theorem later_leftover (sound : book.Sound policy) {index : Nat} {debt : Debt}
    (debt_eq : book.debts[index]? = some debt) (debt_open : debt.IsOpen)
    (moves : policy ≠ .leaveOpen) :
    Later policy book
      ((book.changeDebt index (·.move policy)).charge index (debt.move policy).remaining) := by
  have one_change :
      (book.changeDebt index (·.move policy)).charge index (debt.move policy).remaining =
        book.changeDebt index fun found =>
          (found.move policy).charge (debt.move policy).remaining := by
    simp only [charge, changeDebt, List.modify_modify_eq]
    rfl
  rw [one_change]
  apply later_changeDebt sound
  intro found found_eq
  rw [show found = debt from Option.some.inj (found_eq.symm.trans debt_eq)]
  exact Debt.later_charge_move (sound.debt debt_eq) debt_open moves

/-- What two open payments of opposite directions offset is a part of either. -/
theorem offset_within {received made : Fund} (received_pos : 0 < received.remaining)
    (made_neg : made.remaining < 0) :
    Within (offset received made) made.remaining ∧
      Within (-offset received made) received.remaining := by
  unfold offset Within
  omega

theorem Placed.reverse_signs (sound : book.Sound policy) {inbound outbound : Nat}
    (placed : book.Placed (.reverse inbound outbound)) {received made : Fund}
    (received_eq : book.funds[inbound]? = some received)
    (made_eq : book.funds[outbound]? = some made) (received_open : received.IsOpen)
    (made_open : made.IsOpen) : 0 < received.remaining ∧ made.remaining < 0 := by
  obtain ⟨⟨first, first_eq, first_pos⟩, second, second_eq, second_neg⟩ := placed
  obtain rfl := Option.some.inj (received_eq.symm.trans first_eq)
  obtain rfl := Option.some.inj (made_eq.symm.trans second_eq)
  have received_within := (sound.fund received_eq).remaining_within
  have made_within := (sound.fund made_eq).remaining_within
  unfold Within at received_within made_within
  unfold Fund.IsOpen at received_open made_open
  omega

theorem Placed.reverse_ne {inbound outbound : Nat}
    (placed : book.Placed (.reverse inbound outbound)) : inbound ≠ outbound := by
  rintro rfl
  obtain ⟨⟨first, first_eq, first_pos⟩, second, second_eq, second_neg⟩ := placed
  obtain rfl := Option.some.inj (first_eq.symm.trans second_eq)
  omega

/-- A payment made is later once it has recorded what a payment received offsets. -/
theorem later_offset (sound : book.Sound policy) {outbound : Nat} {received made : Fund}
    (made_eq : book.funds[outbound]? = some made)
    (within : Within (offset received made) made.remaining) :
    Later policy book (book.changeFund outbound (·.draw (offset received made))) := by
  apply later_changeFund sound
  intro found found_eq
  rw [show found = made from Option.some.inj (found_eq.symm.trans made_eq)]
  exact Fund.later_draw (sound.fund made_eq) within

/-- A reversal makes the book later. -/
theorem later_reverse (sound : book.Sound policy) {inbound outbound : Nat}
    (placed : book.Placed (.reverse inbound outbound)) {received made : Fund}
    (received_eq : book.funds[inbound]? = some received)
    (made_eq : book.funds[outbound]? = some made) (received_open : received.IsOpen)
    (made_open : made.IsOpen) :
    Later policy book
      ((book.changeFund outbound (·.draw (offset received made))).changeFund inbound
        (·.draw (-offset received made))) := by
  obtain ⟨received_pos, made_neg⟩ :=
    placed.reverse_signs sound received_eq made_eq received_open made_open
  obtain ⟨made_within, received_within⟩ := offset_within received_pos made_neg
  have drawn := later_offset sound made_eq made_within
  refine drawn.trans (later_changeFund drawn.sound fun found found_eq => ?_)
  rw [getElem?_changeFund_ne placed.reverse_ne.symm] at found_eq
  rw [show found = received from Option.some.inj (found_eq.symm.trans received_eq)]
  exact Fund.later_draw (sound.fund received_eq) received_within

/-- Every deal of a well-placed step turns a sound book into a later one. -/
theorem Deals.later (sound : book.Sound policy) {step : Step} {deal : Deal}
    (dealt : Deals policy book step deal) (placed : book.Placed step) :
    Later policy book deal.after := by
  cases dealt with
  | pair debt_eq source_eq debt_open source_open fits =>
      exact later_pair sound placed debt_eq source_eq
  | leftover debt_eq debt_open moves =>
      exact later_leftover sound debt_eq debt_open moves
  | reverse received_eq made_eq received_open made_open currency_eq =>
      exact later_reverse sound placed received_eq made_eq received_open made_open
  | remainder debt_eq carries =>
      apply later_changeDebt sound
      intro found found_eq
      rw [Option.some.inj (found_eq.symm.trans debt_eq)]
      exact Debt.later_charge (sound.debt debt_eq) (within_zero _) (.inl ⟨rfl, rfl⟩)

end Book

/-! ## Trails -/

/-- Along a trail the book only becomes later. -/
theorem Trail.later {policy : LeftoverPolicy} {start : Book} {history : History}
    (trail : Trail policy start history) (sound : start.Sound policy) :
    Book.Later policy start history.book := by
  induction trail with
  | nil => exact .refl sound
  | snoc _ placed dealt _ ih => exact ih.trans (dealt.later ih.sound placed)

/-- The books that a history has gone through since its start. -/
def History.stages (start : Book) (history : History) : List Book :=
  start :: history.deals.map Deal.after

theorem History.stages_record (start : Book) (history : History) (deal : Deal) :
    (history.record deal).stages start = history.stages start ++ [deal.after] := by
  simp [stages, record]

/-- Each book of a trail is later than those before it, and the last one than all of them. -/
theorem Trail.stages_later {policy : LeftoverPolicy} {start : Book} {history : History}
    (trail : Trail policy start history) (sound : start.Sound policy) :
    (history.stages start ++ [history.book]).Pairwise (Book.Later policy) := by
  induction trail with
  | nil =>
      have later := Book.Later.refl sound
      simpa [History.stages] using later
  | snoc trail placed dealt accepted ih =>
      rename_i history step deal
      have next := dealt.later (trail.later sound).sound placed
      obtain ⟨earlier, -, reached⟩ := List.pairwise_append.mp ih
      have onwards : ∀ book ∈ history.stages start, Book.Later policy book deal.after :=
        fun book mem => (reached book mem history.book (by simp)).trans next
      have stays := Book.Later.refl next.sound
      rw [History.stages_record, List.append_assoc]
      refine List.pairwise_append.mpr ⟨earlier, by simpa [History.record] using stays, ?_⟩
      intro book mem other other_mem
      have other_eq : other = deal.after := by
        simpa [History.record] using other_mem
      exact other_eq ▸ onwards book mem

end Settlement
