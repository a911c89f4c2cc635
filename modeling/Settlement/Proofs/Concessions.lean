import Mathlib.Data.Sign.Basic
import Settlement.Proofs.Balances
import Settlement.Proofs.Exact.Concessions
import Settlement.Proofs.Maximality
import Settlement.Proofs.Reconciliation

/-!
# Discounts and write-offs

A payable's discount and write-off are granted with the first candidate that settles anything of
it, or else in the last pass, and what the policy takes off the pay amount goes to the one or the
other.  A build that comes to its end has granted all of it, once.
-/

namespace Settlement

namespace Payable

/-- The part of the pay amount that neither has been paid nor is left to pay. -/
def waived (payable : Payable) : Rat :=
  payable.initial.pay.amount.value - payable.allocated.pay.amount.value -
    payable.remaining.pay.amount.value

/-- Discount and write-off are both still to be granted. -/
def Promised (payable : Payable) : Prop :=
  payable.remaining.discount.amount.value = payable.initial.discount.amount.value ∧
    payable.remaining.writeOff.amount.value = payable.initial.writeOff.amount.value

/-- Nothing is left of the discount and the write-off. -/
def Granted (payable : Payable) : Prop :=
  payable.remaining.discount.amount.value = 0 ∧ payable.remaining.writeOff.amount.value = 0

/-- What has been allocated as discount and write-off is what the payable started with, and what
was waived of the pay amount went where the policy says. -/
def Lands (payable : Payable) : LeftoverPolicy → Prop
  | .leaveOpen =>
      payable.waived = 0 ∧
        payable.allocated.discount.amount.value = payable.initial.discount.amount.value ∧
        payable.allocated.writeOff.amount.value = payable.initial.writeOff.amount.value
  | .writeOff =>
      payable.allocated.discount.amount.value = payable.initial.discount.amount.value ∧
        payable.allocated.writeOff.amount.value =
          payable.initial.writeOff.amount.value + payable.waived
  | .discount =>
      payable.allocated.discount.amount.value =
          payable.initial.discount.amount.value + payable.waived ∧
        payable.allocated.writeOff.amount.value = payable.initial.writeOff.amount.value

/-- Discount, write-off and what was waived are all accounted for. -/
structure Conceded (policy : LeftoverPolicy) (payable : Payable) : Prop where
  granted : payable.Granted
  lands : payable.Lands policy
  sign_eq : payable.waived ≠ 0 →
    SignType.sign payable.waived = SignType.sign payable.initial.pay.amount.value
  bounded : |payable.waived| ≤ |payable.initial.pay.amount.value|
  /-- Something is waived only of a payable of which nothing stays open. -/
  settled : payable.waived ≠ 0 → payable.remaining.pay.amount.value = 0

/-- The candidates that settle a payable carry its discount and its write-off. -/
structure GrantedBy (candidates : List Candidate) (payable : Payable) : Prop where
  discount : total (·.Settles payable.reference) (·.amounts.discount) candidates =
    payable.allocated.discount.amount.value
  writeOff : total (·.Settles payable.reference) (·.amounts.writeOff) candidates =
    payable.allocated.writeOff.amount.value

/-! ## Balances in ticks -/

variable {payable : Payable} {policy : LeftoverPolicy}

theorem waived_eq (exact : payable.Exact) :
    payable.waived = (payable.debt.waived : Rat) / tenTo Money.places := by
  rw [waived, exact.initial.pay.value_eq, exact.allocated.pay.value_eq,
    exact.remaining.pay.value_eq, ← sub_div, ← sub_div, Debt.waived]
  push_cast
  rfl

theorem granted_iff (exact : payable.Exact) :
    payable.Granted ↔
      payable.debt.remaining.discount = 0 ∧ payable.debt.remaining.writeOff = 0 := by
  have places_ne : (tenTo Money.places : Rat) ≠ 0 := (Decimal.tenTo_rat_pos _).ne'
  rw [Granted, exact.remaining.discount.value_eq, exact.remaining.writeOff.value_eq,
    div_eq_zero_iff, div_eq_zero_iff, or_iff_left places_ne, or_iff_left places_ne,
    Int.cast_eq_zero, Int.cast_eq_zero]
  rfl

theorem promised_of_debt (exact : payable.Exact)
    (kept : payable.debt.remaining.discount = payable.debt.initial.discount ∧
      payable.debt.remaining.writeOff = payable.debt.initial.writeOff) : payable.Promised := by
  rw [Promised, exact.remaining.discount.value_eq, exact.remaining.writeOff.value_eq,
    exact.initial.discount.value_eq, exact.initial.writeOff.value_eq]
  have discount : payable.remaining.discount.ticks = payable.initial.discount.ticks := kept.1
  have writeOff : payable.remaining.writeOff.ticks = payable.initial.writeOff.ticks := kept.2
  rw [discount, writeOff]
  exact ⟨rfl, rfl⟩

/-- What has been allocated balances with what was waived once nothing is left. -/
theorem lands_of_sound (exact : payable.Exact) (sound : payable.debt.Sound policy)
    (granted : payable.debt.remaining.discount = 0 ∧ payable.debt.remaining.writeOff = 0) :
    payable.Lands policy := by
  have discount : payable.allocated.discount.ticks =
      payable.initial.discount.ticks + payable.debt.waivedTo policy .discount := by
    have balance := sound.discount_balance
    rwa [granted.1, Int.add_zero] at balance
  have writeOff : payable.allocated.writeOff.ticks =
      payable.initial.writeOff.ticks + payable.debt.waivedTo policy .writeOff := by
    have balance := sound.writeOff_balance
    rwa [granted.2, Int.add_zero] at balance
  have waived := waived_eq exact
  unfold Lands
  rw [exact.allocated.discount.value_eq, exact.allocated.writeOff.value_eq,
    exact.initial.discount.value_eq, exact.initial.writeOff.value_eq, discount, writeOff, waived]
  cases policy with
  | leaveOpen => simp [Debt.waivedTo, sound.waived_open rfl]
  | discount => simp [Debt.waivedTo, add_div]
  | writeOff => simp [Debt.waivedTo, add_div]

/-- A sound payable of which discount and write-off have been granted is accounted for. -/
theorem conceded_of_sound (exact : payable.Exact) (sound : payable.debt.Sound policy)
    (granted : payable.Granted) : payable.Conceded policy := by
  have places_pos : (0 : Rat) < tenTo Money.places := Decimal.tenTo_rat_pos _
  have within : Within payable.debt.waived payable.initial.pay.ticks := sound.waived_within
  have waived_ne : payable.waived ≠ 0 → payable.debt.waived ≠ 0 := by
    intro waived nothing
    rw [waived_eq exact, nothing, Int.cast_zero, zero_div] at waived
    exact waived rfl
  refine ⟨granted, lands_of_sound exact sound ((granted_iff exact).mp granted), ?_, ?_, ?_⟩
  · intro waived
    rw [waived_eq exact, exact.initial.pay.value_eq]
    rcases lt_or_gt_of_ne (waived_ne waived) with below | above
    · have initial_below : payable.initial.pay.ticks < 0 := by
        unfold Within at within
        omega
      rw [sign_neg (div_neg_of_neg_of_pos (Int.cast_lt_zero.mpr below) places_pos),
        sign_neg (div_neg_of_neg_of_pos (Int.cast_lt_zero.mpr initial_below) places_pos)]
    · have initial_above : 0 < payable.initial.pay.ticks := by
        unfold Within at within
        omega
      rw [sign_pos (div_pos (Int.cast_pos.mpr above) places_pos),
        sign_pos (div_pos (Int.cast_pos.mpr initial_above) places_pos)]
  · have magnitude_le : |payable.debt.waived| ≤ |payable.initial.pay.ticks| := by
      rw [Int.abs_eq_natAbs, Int.abs_eq_natAbs]
      exact_mod_cast within.natAbs_le
    rw [waived_eq exact, exact.initial.pay.value_eq, abs_div, abs_div]
    exact div_le_div_of_nonneg_right (by exact_mod_cast magnitude_le) (abs_nonneg _)
  · intro waived
    have nothing : payable.remaining.pay.ticks = 0 := sound.waived_settled (waived_ne waived)
    rw [exact.remaining.pay.value_eq, nothing, Int.cast_zero, zero_div]

end Payable

/-! ## Granted once -/

/-- What a step from one entry of a list to a later one keeps begins at some place of the list. -/
theorem exists_threshold {α : Type} {related : α → α → Prop} {holds : α → Prop}
    {entries : List α} (steps : entries.Pairwise related)
    (kept : ∀ before after, related before after → holds before → holds after) :
    ∃ moment : Nat, ∀ (place : Nat) (entry : α), entries[place]? = some entry →
      (holds entry ↔ moment ≤ place) := by
  induction steps with
  | nil => exact ⟨0, by simp⟩
  | cons head steps ih =>
      rename_i first rest
      by_cases here : holds first
      · refine ⟨0, fun place entry found => iff_of_true ?_ (Nat.zero_le _)⟩
        cases place with
        | zero =>
            obtain rfl : first = entry := by simpa using found
            exact here
        | succ place =>
            have mem := List.mem_of_getElem? (List.getElem?_cons_succ ▸ found)
            exact kept first entry (head entry mem) here
      · obtain ⟨moment, threshold⟩ := ih
        refine ⟨moment + 1, fun place entry found => ?_⟩
        cases place with
        | zero =>
            obtain rfl : first = entry := by simpa using found
            exact iff_of_false here (by omega)
        | succ place =>
            rw [threshold place entry (by simpa using found)]
            omega

namespace Trail

variable {policy : LeftoverPolicy} {start : Book} {history : History}

/-- The last stage of a trail is the book that it has led to. -/
theorem last_stage (trail : Trail policy start history) :
    (history.stages start)[history.deals.length]? = some history.book := by
  cases trail with
  | nil => rfl
  | snoc trail placed dealt accepted =>
      rw [History.stages_record, History.record, List.length_append]
      simp [History.stages]

/-- Along a trail, the extras of a debt are all there up to some stage, and gone from then on. -/
theorem extras_threshold (trail : Trail policy start history) (sound : start.Sound policy)
    (place : Nat) (gone : history.book.ExtrasGone place) :
    ∃ moment ≤ history.deals.length, ∀ (stage : Nat) (book : Book) (debt : Debt),
      (history.stages start)[stage]? = some book → book.debts[place]? = some debt →
        if stage < moment then
          debt.remaining.discount = debt.initial.discount ∧
            debt.remaining.writeOff = debt.initial.writeOff
        else
          debt.remaining.discount = 0 ∧ debt.remaining.writeOff = 0 := by
  have stages_later := (List.pairwise_append.mp (trail.stages_later sound)).1
  obtain ⟨moment, threshold⟩ := exists_threshold stages_later
    fun before after later => Book.ExtrasGone.later later
  refine ⟨moment, (threshold _ _ trail.last_stage).mp gone, ?_⟩
  intro stage book debt stage_eq debt_eq
  have stage_sound : book.Sound policy := by
    rcases List.mem_cons.mp (List.mem_of_getElem? stage_eq) with rfl | later_mem
    · exact sound
    · exact ((List.pairwise_cons.mp stages_later).1 book later_mem).sound
  have reached := threshold stage book stage_eq
  split_ifs with early
  · rcases (stage_sound.debt debt_eq).extras with kept | taken
    · exact kept
    · have gone_here : book.ExtrasGone place := by
        intro found found_eq
        obtain rfl := Option.some.inj (debt_eq.symm.trans found_eq)
        exact taken
      exact absurd (reached.mp gone_here) (by omega)
  · exact reached.mpr (by omega) debt debt_eq

end Trail

/-! ## Builds -/

/-- The run over the samples, with what stays open of a payable written off. -/
def Samples.writingOff : Run :=
  { Samples.run with settings := { Samples.run.settings with leftover := .writeOff } }

namespace Run

variable {τ : Type} [TransactionManager τ] {run : Run}

/-- The stages of a settlement are read as those of its history. -/
theorem stages_history (progress : Progress) (given : Documents) {stage : Nat}
    {documents : Documents}
    (stage_eq : (given :: progress.postings.map Posting.documents)[stage]? = some documents) :
    (progress.history.stages given.book)[stage]? = some documents.book := by
  have stages_eq : progress.history.stages given.book =
      (given :: progress.postings.map Posting.documents).map Documents.book := by
    rw [History.stages, Progress.history, List.map_cons, List.map_map, List.map_map]
    rfl
  rw [stages_eq, List.getElem?_map, stage_eq]
  rfl

/-- Discount and write-off of a payable are granted together, at one stage of a build. -/
theorem granted_at (fresh : run.documents.Fresh) (manager : Option τ) (place : Nat)
    (granted : ∀ payable ∈ run.progress.documents.payables, payable.Granted) :
    ∃ moment ≤ (run.build manager).postings.length,
      ∀ (stage : Nat) (documents : Documents) (payable : Payable),
        ((run.build manager).stages run.documents)[stage]? = some documents →
          documents.payables[place]? = some payable →
            if stage < moment then payable.Promised else payable.Granted := by
  have gone : run.progress.documents.book.ExtrasGone place := by
    intro debt debt_eq
    obtain ⟨payable, payable_eq, rfl⟩ := Documents.debt_eq_some_iff.mp debt_eq
    have mem := List.mem_of_getElem? payable_eq
    exact (Payable.granted_iff ((progress_exact fresh).documents.payables payable mem)).mp
      (granted payable mem)
  obtain ⟨moment, moment_le, threshold⟩ :=
    (progress_trail fresh).extras_threshold (fresh.sound _) place gone
  rw [Progress.history, List.length_map] at moment_le
  rw [postings_build]
  refine ⟨moment, moment_le, fun stage documents payable stage_eq payable_eq => ?_⟩
  have exact := (exact_of_mem_stages manager fresh documents
    (List.mem_of_getElem? stage_eq)).payables payable (List.mem_of_getElem? payable_eq)
  rw [stages_build, ← List.cons_append, List.getElem?_append] at stage_eq
  split_ifs at stage_eq with during
  · have debt_eq := Documents.debt_eq_some_iff.mpr ⟨payable, payable_eq, rfl⟩
    have reached := threshold stage documents.book payable.debt
      (stages_history run.progress run.documents stage_eq) debt_eq
    split_ifs at reached ⊢
    · exact Payable.promised_of_debt exact reached
    · exact (Payable.granted_iff exact).mpr reached
  · -- What a build leaves comes after all of its postings.
    rw [List.length_cons, List.length_map] at during
    rw [if_neg (by omega)]
    obtain rfl := List.mem_singleton.mp (List.mem_of_getElem? stage_eq)
    exact granted payable (List.mem_of_getElem? payable_eq)

/-- What a build of fresh documents has granted of every payable once its candidates have been
computed: the discount and the write-off, in one go, and with them what the policy took off the pay
amount.  Where no reference stands for two documents, the candidates that settle the payable carry
what has been granted. -/
theorem concessions_granted (run : Run) (manager : Option τ) (fresh : run.documents.Fresh)
    (unbuilt : run.built = false) (settled : (run.documents.settle run.settings).2 = none) :
    (∀ payable ∈ (run.build manager).run.documents.payables,
        payable.Conceded run.settings.leftover) ∧
      (∀ place : Nat, ∃ moment ≤ (run.build manager).postings.length,
        ∀ (stage : Nat) (documents : Documents) (payable : Payable),
          ((run.build manager).stages run.documents)[stage]? = some documents →
            documents.payables[place]? = some payable →
              if stage < moment then payable.Promised else payable.Granted) ∧
      (run.documents.references.Nodup →
        ∀ payable ∈ (run.build manager).run.documents.payables,
          payable.GrantedBy ((run.build manager).postings.map Posting.candidate)) := by
  have later := (progress_trail fresh).later (fresh.sound _)
  have granted : ∀ payable ∈ run.progress.documents.payables, payable.Granted := by
    intro payable mem
    obtain ⟨discount, writeOff⟩ := (exhausted_of_settled fresh unbuilt settled).extras payable mem
    exact ⟨(Decimal.isZero_iff_value _).mp discount, (Decimal.isZero_iff_value _).mp writeOff⟩
  refine ⟨?_, fun place => granted_at fresh manager place granted, ?_⟩
  · rw [run_build]
    intro payable mem
    exact Payable.conceded_of_sound ((progress_exact fresh).documents.payables payable mem)
      (later.sound.debts payable.debt (List.mem_map_of_mem mem)) (granted payable mem)
  · rw [run_build, postings_build]
    intro distinct payable mem
    have told := payable_toldBy fresh distinct mem
    exact ⟨told.discount.symm, told.writeOff.symm⟩

/-- A run over the samples that writes leftovers off grants every discount and write-off. -/
theorem concessions_granted_samples :
    Samples.writingOff.documents.Fresh ∧ Samples.writingOff.built = false ∧
      (Samples.writingOff.documents.settle Samples.writingOff.settings).2 = none ∧
      Samples.writingOff.documents.references.Nodup ∧
      (∃ payable ∈ (Samples.writingOff.build (none : Option MemoryManager)).run.documents.payables,
        payable.waived ≠ 0) ∧
      (∀ payable ∈ (Samples.writingOff.build (none : Option MemoryManager)).run.documents.payables,
        payable.Conceded .writeOff) ∧
      ∀ payable ∈ (Samples.writingOff.build (none : Option MemoryManager)).run.documents.payables,
        payable.GrantedBy ((Samples.writingOff.build (none : Option MemoryManager)).postings.map
          Posting.candidate) :=
  have settled : (Samples.writingOff.documents.settle Samples.writingOff.settings).2 = none := by
    decide +kernel
  have distinct : Samples.writingOff.documents.references.Nodup := by decide +kernel
  have conceded := concessions_granted Samples.writingOff (none : Option MemoryManager)
    Samples.documents_fresh rfl settled
  ⟨Samples.documents_fresh, rfl, settled, distinct, by decide +kernel, conceded.1,
    conceded.2.2 distinct⟩

end Run
end Settlement
