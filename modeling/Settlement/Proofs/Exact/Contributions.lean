import Mathlib.Algebra.BigOperators.Group.List.Basic
import Settlement.Proofs.Exact.Trail

/-!
# What entries contribute

An entry adds its parts to the debt that it settles and takes its pay amount off the debt that it
is paid with; a payment made and a payment received are two sides in the same way.  Where all
references are distinct, a deal changes what has been allocated to each document by exactly what
its entry contributes, so along a trail the allocated amounts are the sums of the contributions.
-/

namespace Settlement

theorem Parts.pay_sum (parts : List Parts) : parts.sum.pay = (parts.map Parts.pay).sum := by
  induction parts with
  | nil => rfl
  | cons first rest ih => rw [List.sum_cons, List.map_cons, List.sum_cons, pay_add, ih]

namespace Entry

/-- What an entry adds to what has been allocated to the debt with a reference. -/
def toDebt (reference : Reference) (entry : Entry) : Parts :=
  (if entry.payable = reference then entry.parts else 0) -
    (if entry.payment = some reference then Parts.ofPay entry.parts.pay else 0)

/-- What an entry adds to what has been allocated to the fund with a reference. -/
def toFund (reference : Reference) (entry : Entry) : Int :=
  match entry.kind with
  | .invoiceToPayment => if entry.payment = some reference then entry.parts.pay else 0
  | .inboundPaymentToOutboundPayment =>
      (if entry.payable = reference then entry.parts.pay else 0) -
        (if entry.payment = some reference then entry.parts.pay else 0)
  | _ => 0

end Entry

namespace Book

/-- The references of all documents. -/
def references (book : Book) : List Reference :=
  book.debts.map (fun debt => debt.reference) ++ book.funds.map (fun fund => fund.reference)

/-- No reference stands for two documents. -/
def Distinct (book : Book) : Prop := book.references.Nodup

variable {policy : LeftoverPolicy} {before book after : Book}

theorem Later.references_eq (later : Later policy before after) :
    after.references = before.references := by
  rw [references, references,
    forall₂_map_eq later.debts fun _ _ step => congrArg Debt.Terms.reference step.terms_eq,
    forall₂_map_eq later.funds fun _ _ step => congrArg Fund.Terms.reference step.terms_eq]

theorem Later.distinct (later : Later policy before after) (distinct : before.Distinct) :
    after.Distinct := by
  rwa [Distinct, later.references_eq]

theorem Distinct.debt_place (distinct : book.Distinct) {index other : Nat} {debt found : Debt}
    (debt_eq : book.debts[index]? = some debt) (found_eq : book.debts[other]? = some found) :
    debt.reference = found.reference ↔ index = other :=
  place_eq_iff (List.nodup_append.mp distinct).1
    debt_eq found_eq

theorem Distinct.fund_place (distinct : book.Distinct) {index other : Nat} {fund found : Fund}
    (fund_eq : book.funds[index]? = some fund) (found_eq : book.funds[other]? = some found) :
    fund.reference = found.reference ↔ index = other :=
  place_eq_iff (List.nodup_append.mp distinct).2.1
    fund_eq found_eq

theorem Distinct.ne_of_mem (distinct : book.Distinct) {debt : Debt} {fund : Fund}
    (debt_mem : debt ∈ book.debts) (fund_mem : fund ∈ book.funds) :
    debt.reference ≠ fund.reference :=
  (List.nodup_append.mp distinct).2.2 _ (List.mem_map_of_mem debt_mem) _
    (List.mem_map_of_mem fund_mem)

theorem Distinct.debt_ne_fund (distinct : book.Distinct) {index other : Nat} {debt : Debt}
    {fund : Fund} (debt_eq : book.debts[index]? = some debt)
    (fund_eq : book.funds[other]? = some fund) : debt.reference ≠ fund.reference :=
  distinct.ne_of_mem (List.mem_of_getElem? debt_eq) (List.mem_of_getElem? fund_eq)

/-! ## One deal -/

theorem getElem?_changeDebt (index : Nat) (change : Debt → Debt) {place : Nat} {found : Debt}
    (found_eq : book.debts[place]? = some found) :
    (book.changeDebt index change).debts[place]? =
      some (if index = place then change found else found) := by
  rw [changeDebt, List.getElem?_modify, found_eq]
  rfl

theorem getElem?_charge (index : Nat) (parts : Parts) {place : Nat} {found : Debt}
    (found_eq : book.debts[place]? = some found) :
    (book.charge index parts).debts[place]? =
      some (if index = place then found.charge parts else found) :=
  getElem?_changeDebt index (·.charge parts) found_eq

theorem getElem?_changeFund (index : Nat) (change : Fund → Fund) {place : Nat} {found : Fund}
    (found_eq : book.funds[place]? = some found) :
    (book.changeFund index change).funds[place]? =
      some (if index = place then change found else found) := by
  rw [changeFund, List.getElem?_modify, found_eq]
  rfl

/-- A debt that pays another is charged with the opposite amount. -/
theorem toDebt_pairEntry (distinct : book.Distinct) {kind : CandidateKind}
    {index other place : Nat} {debt memo found : Debt} {source : Source}
    (debt_eq : book.debts[index]? = some debt) (memo_eq : book.debts[other]? = some memo)
    (found_eq : book.debts[place]? = some found) (source_eq : source.reference = memo.reference) :
    (pairEntry kind debt source (offer debt source)).toDebt found.reference =
      (if index = place then offer debt source else 0) +
        (if other = place then Parts.ofPay (-source.share debt) else 0) := by
  have neg_ofPay : ∀ amount, -Parts.ofPay amount = Parts.ofPay (-amount) := fun _ => rfl
  simp only [Entry.toDebt, pairEntry, Option.some.injEq, source_eq,
    distinct.debt_place debt_eq found_eq, distinct.debt_place memo_eq found_eq, sub_eq_add_neg]
  split_ifs <;> simp [offer, neg_ofPay]

/-- A deal changes what has been allocated to a debt by what its entry contributes. -/
theorem Deals.toDebt (distinct : book.Distinct) {step : Step} {deal : Deal}
    (dealt : Deals policy book step deal) {place : Nat} {found : Debt}
    (found_eq : book.debts[place]? = some found) :
    ∃ changed, deal.after.debts[place]? = some changed ∧
      changed.allocated = found.allocated + deal.entry.toDebt found.reference := by
  cases dealt with
  | pair debt_eq source_eq debt_open source_open fits =>
      rename_i kind index means debt source
      have charged := getElem?_charge index (offer debt source) found_eq
      cases means with
      | payment other =>
          obtain ⟨fund, fund_eq, rfl⟩ := Option.map_eq_some_iff.mp source_eq
          refine ⟨_, charged, ?_⟩
          simp only [Entry.toDebt, pairEntry, distinct.debt_place debt_eq found_eq,
            Option.some.injEq, Source.reference, (distinct.debt_ne_fund found_eq fund_eq).symm,
            if_false, sub_zero]
          split_ifs <;> simp
      | creditMemo other =>
          obtain ⟨memo, memo_eq, rfl⟩ := Option.map_eq_some_iff.mp source_eq
          refine ⟨_, getElem?_charge other _ charged, ?_⟩
          rw [toDebt_pairEntry distinct debt_eq memo_eq found_eq rfl]
          split_ifs <;> simp [add_assoc]
      | purchaseInvoice other =>
          obtain ⟨memo, memo_eq, rfl⟩ := Option.map_eq_some_iff.mp source_eq
          refine ⟨_, getElem?_charge other _ charged, ?_⟩
          rw [toDebt_pairEntry distinct debt_eq memo_eq found_eq rfl]
          split_ifs <;> simp [add_assoc]
  | leftover debt_eq debt_open moves =>
      rename_i index debt
      have moved := getElem?_changeDebt index (·.move policy) found_eq
      refine ⟨_, getElem?_charge index _ moved, ?_⟩
      simp only [Entry.toDebt, concessionEntry, Debt.terms_move, reduceCtorEq, if_false, sub_zero,
        distinct.debt_place debt_eq found_eq]
      split_ifs <;> simp
  | reverse received_eq made_eq received_open made_open currency_eq =>
      refine ⟨found, found_eq, ?_⟩
      simp only [Entry.toDebt, reversalEntry, Option.some.injEq,
        (distinct.debt_ne_fund found_eq made_eq).symm,
        (distinct.debt_ne_fund found_eq received_eq).symm, if_false, sub_zero, add_zero]
  | remainder debt_eq carries =>
      rename_i index debt
      refine ⟨_, getElem?_charge index _ found_eq, ?_⟩
      simp only [Entry.toDebt, concessionEntry, reduceCtorEq, if_false, sub_zero,
        distinct.debt_place debt_eq found_eq]
      split_ifs <;> simp

/-- A deal changes what has been allocated to a fund by what its entry contributes. -/
theorem Deals.toFund (distinct : book.Distinct) {step : Step} {deal : Deal}
    (dealt : Deals policy book step deal) (placed : book.Placed step) {place : Nat}
    {found : Fund} (found_eq : book.funds[place]? = some found) :
    ∃ changed, deal.after.funds[place]? = some changed ∧
      changed.allocated = found.allocated + deal.entry.toFund found.reference := by
  cases dealt with
  | pair debt_eq source_eq debt_open source_open fits =>
      rename_i kind index means debt source
      cases means with
      | payment other =>
          obtain ⟨fund, fund_eq, rfl⟩ := Option.map_eq_some_iff.mp source_eq
          obtain rfl := Serves.kind_eq placed
          refine ⟨_, getElem?_changeFund other _ found_eq, ?_⟩
          simp only [Entry.toFund, pairEntry, Means.pairingKind, Option.some.injEq,
            Source.reference, distinct.fund_place fund_eq found_eq]
          split_ifs <;> simp [offer]
      | creditMemo other =>
          obtain rfl := Serves.kind_eq placed
          exact ⟨found, found_eq, by simp [Entry.toFund, pairEntry, Means.pairingKind]⟩
      | purchaseInvoice other =>
          obtain rfl := Serves.kind_eq placed
          exact ⟨found, found_eq, by simp [Entry.toFund, pairEntry, Means.pairingKind]⟩
  | leftover debt_eq debt_open moves =>
      exact ⟨found, found_eq, by simp [Entry.toFund, concessionEntry]⟩
  | reverse received_eq made_eq received_open made_open currency_eq =>
      rename_i inbound outbound received made
      have drawn := getElem?_changeFund outbound (·.draw (offset received made)) found_eq
      refine ⟨_, getElem?_changeFund inbound _ drawn, ?_⟩
      simp only [Entry.toFund, reversalEntry, Option.some.injEq,
        distinct.fund_place made_eq found_eq, distinct.fund_place received_eq found_eq]
      split_ifs <;> simp [Parts.pay_ofPay]
  | remainder debt_eq carries =>
      exact ⟨found, found_eq, by simp [Entry.toFund, concessionEntry]⟩

end Book

/-! ## Whole trails -/

namespace Trail

variable {policy : LeftoverPolicy} {start : Book} {history : History}

/-- No deal of a trail has one document on both sides. -/
theorem accepted (trail : Trail policy start history) :
    ∀ deal ∈ history.deals, deal.entry.refusal? = none := by
  induction trail with
  | nil => simp
  | snoc trail placed dealt accepted ih =>
      intro other mem
      rcases List.mem_append.mp mem with earlier | last
      · exact ih other earlier
      · exact List.mem_singleton.mp last ▸ accepted

/-- Along a trail the entries contribute what is allocated to a debt. -/
theorem toDebt (trail : Trail policy start history) (sound : start.Sound policy)
    (distinct : start.Distinct) {place : Nat} {debt : Debt}
    (debt_eq : start.debts[place]? = some debt) :
    ∃ found, history.book.debts[place]? = some found ∧ found.reference = debt.reference ∧
      found.allocated = debt.allocated +
        (history.deals.map fun deal => deal.entry.toDebt debt.reference).sum := by
  induction trail with
  | nil => exact ⟨debt, debt_eq, rfl, by simp⟩
  | snoc trail placed dealt accepted ih =>
      rename_i history step deal
      obtain ⟨found, found_eq, reference_eq, allocated_eq⟩ := ih
      have later := trail.later sound
      obtain ⟨changed, changed_eq, gained⟩ := dealt.toDebt (later.distinct distinct) found_eq
      obtain ⟨changed', changed_eq', terms_eq⟩ :=
        (dealt.later later.sound placed).debt_terms found_eq
      obtain rfl := Option.some.inj (changed_eq.symm.trans changed_eq')
      refine ⟨changed, changed_eq, (congrArg Debt.Terms.reference terms_eq).trans reference_eq, ?_⟩
      rw [gained, allocated_eq, reference_eq, History.record, List.map_append, List.sum_append,
        List.map_singleton, List.sum_singleton, add_assoc]

/-- Along a trail the entries contribute what is allocated to a fund. -/
theorem toFund (trail : Trail policy start history) (sound : start.Sound policy)
    (distinct : start.Distinct) {place : Nat} {fund : Fund}
    (fund_eq : start.funds[place]? = some fund) :
    ∃ found, history.book.funds[place]? = some found ∧ found.reference = fund.reference ∧
      found.allocated = fund.allocated +
        (history.deals.map fun deal => deal.entry.toFund fund.reference).sum := by
  induction trail with
  | nil => exact ⟨fund, fund_eq, rfl, by simp⟩
  | snoc trail placed dealt accepted ih =>
      rename_i history step deal
      obtain ⟨found, found_eq, reference_eq, allocated_eq⟩ := ih
      have later := trail.later sound
      obtain ⟨changed, changed_eq, gained⟩ :=
        dealt.toFund (later.distinct distinct) placed found_eq
      obtain ⟨changed', changed_eq', terms_eq⟩ :=
        (dealt.later later.sound placed).fund_terms found_eq
      obtain rfl := Option.some.inj (changed_eq.symm.trans changed_eq')
      refine ⟨changed, changed_eq, (congrArg Fund.Terms.reference terms_eq).trans reference_eq, ?_⟩
      rw [gained, allocated_eq, reference_eq, History.record, List.map_append, List.sum_append,
        List.map_singleton, List.sum_singleton, add_assoc]

/-- What the first deals of a trail contribute to a pay amount is small, like every balance. -/
theorem toDebt_small (trail : Trail policy start history) (sound : start.Sound policy)
    (distinct : start.Distinct) {place : Nat} {debt : Debt}
    (debt_eq : start.debts[place]? = some debt) {first : List Deal}
    (begins : first <+: history.deals) :
    (debt.allocated + (first.map fun deal => deal.entry.toDebt debt.reference).sum).pay.natAbs <
      coefficientLimit := by
  induction trail with
  | nil =>
      obtain rfl := List.prefix_nil.mp begins
      have small := (sound.debt debt_eq).allocated_small
      simp only [Parts.magnitude] at small
      simp only [List.map_nil, List.sum_nil, add_zero]
      omega
  | snoc trail placed dealt accepted ih =>
      rcases List.prefix_concat_iff.mp begins with rfl | shorter
      · have longer := trail.snoc placed dealt accepted
        obtain ⟨found, found_eq, -, allocated_eq⟩ := longer.toDebt sound distinct debt_eq
        have small := ((longer.later sound).sound.debt found_eq).allocated_small
        simp only [Parts.magnitude] at small
        rw [History.record] at allocated_eq
        rw [← allocated_eq]
        omega
      · exact ih shorter

end Trail
end Settlement
