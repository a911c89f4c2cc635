import Settlement.Proofs.Exact.Accounts
import Settlement.Proofs.Reconciliation

/-!
# Over- and underpayments along a build

Every candidate says what stays open of its payable and of its payment.  Where no reference stands
for two documents, these amounts telescope: they are the open amount that the document was given
with, less what this candidate and those before it contribute to the document.
-/

namespace Settlement

/-- The open amounts of all documents, by reference. -/
def Documents.openAmounts (documents : Documents) : List (Reference × Money) :=
  documents.payables.map (fun payable => (payable.reference, payable.openAmount)) ++
    documents.payments.map fun payment => (payment.reference, payment.openAmount)

namespace Candidate

/-- What a candidate settles in all: the values of its three parts together. -/
def settled (candidate : Candidate) : Rat :=
  candidate.amounts.pay.amount.value + candidate.amounts.discount.amount.value +
    candidate.amounts.writeOff.amount.value

/-- What a candidate counts for the document that it is paid with: its pay amount where a payment
pays, and the opposite where another document stands in for a payment. -/
def drawn (candidate : Candidate) : Rat :=
  if candidate.kind = .invoiceToPayment then candidate.amounts.pay.amount.value
  else -candidate.amounts.pay.amount.value

/-- What a candidate contributes to the document with a reference. -/
def contribution (reference : Reference) (candidate : Candidate) : Rat :=
  (if candidate.payable = reference then candidate.settled else 0) +
    (if candidate.payment = some reference then candidate.drawn else 0)

/-- A candidate, the last of some candidates, says what stays open of its two documents: what they
were open with, less what the candidates contribute to them. -/
structure Telescopes (documents : Documents) (candidates : List Candidate)
    (candidate : Candidate) : Prop where
  /-- The total of the candidate can be formed. -/
  total : ∃ total, candidate.amounts.total = .ok total ∧
    total.currency = candidate.currency ∧ total.amount.value = candidate.settled
  payable : ∃ opened, (candidate.payable, opened) ∈ documents.openAmounts ∧
    candidate.payableOverUnder.currency = opened.currency ∧
    candidate.payableOverUnder.amount.value =
      opened.amount.value - (candidates.map (contribution candidate.payable)).sum
  /-- Setting a payment received against a payment made turns the sign. -/
  payment : ∀ reference, candidate.payment = some reference →
    ∃ opened, (reference, opened) ∈ documents.openAmounts ∧
      candidate.paymentOverUnder.currency = opened.currency ∧
      candidate.paymentOverUnder.amount.value =
        if candidate.kind = .inboundPaymentToOutboundPayment then
          -(opened.amount.value - (candidates.map (contribution reference)).sum)
        else
          opened.amount.value - (candidates.map (contribution reference)).sum
  unpaid : candidate.payment = none → candidate.paymentOverUnder.amount.value = 0

/-! ## In ticks -/

variable {candidate : Candidate} {candidates : List Candidate}

theorem settled_eq (exact : candidate.Exact) :
    candidate.settled = (candidate.entry.parts.total : Rat) / tenTo Money.places := by
  rw [settled, exact.amounts.pay.value_eq, exact.amounts.discount.value_eq,
    exact.amounts.writeOff.value_eq, ← add_div, ← add_div, Parts.total]
  push_cast
  rfl

theorem drawn_eq (exact : candidate.Exact) :
    candidate.drawn = (candidate.entry.drawn : Rat) / tenTo Money.places := by
  have kind_eq : candidate.entry.kind = candidate.kind := rfl
  rw [drawn, Entry.drawn, kind_eq, exact.amounts.pay.value_eq]
  split_ifs
  · rfl
  · push_cast
    rw [neg_div]
    rfl

theorem contribution_eq (exact : candidate.Exact) (reference : Reference) :
    candidate.contribution reference =
      (candidate.entry.toAccount reference : Rat) / tenTo Money.places := by
  have payable_eq : candidate.entry.payable = candidate.payable := rfl
  have payment_eq : candidate.entry.payment = candidate.payment := rfl
  rw [contribution, Entry.toAccount, payable_eq, payment_eq, settled_eq exact, drawn_eq exact]
  split_ifs <;> simp [add_div]

theorem sum_contribution (exact : ∀ candidate ∈ candidates, candidate.Exact)
    (reference : Reference) :
    (candidates.map (contribution reference)).sum =
      (((candidates.map entry).map (Entry.toAccount reference)).sum : Int) /
        tenTo Money.places := by
  induction candidates with
  | nil => simp
  | cons candidate rest ih =>
      have head := contribution_eq (exact candidate (by simp)) reference
      have tail := ih fun other mem => exact other (by simp [mem])
      simp only [List.map_cons, List.sum_cons] at tail ⊢
      rw [head, tail, ← add_div]
      push_cast
      rfl

end Candidate

/-! ## Open amounts -/

/-- The accounts of fresh documents hold their open amounts, and nothing else yet. -/
theorem Documents.Fresh.opened {documents : Documents} (fresh : documents.Fresh)
    {account : Account} (mem : account ∈ documents.book.accounts) :
    ∃ opened, (account.reference, opened) ∈ documents.openAmounts ∧
      opened.Exact account.currency ∧ opened.ticks = account.openAmount ∧
      account.allocated = 0 := by
  rw [Book.accounts, book, List.map_map, List.map_map] at mem
  rcases List.mem_append.mp mem with debt_mem | fund_mem
  · obtain ⟨payable, payable_mem, rfl⟩ := List.mem_map.mp debt_mem
    have payable_fresh := fresh.payables payable payable_mem
    exact ⟨payable.openAmount, List.mem_append_left _ (List.mem_map.mpr ⟨_, payable_mem, rfl⟩),
      payable_fresh.exact.openAmount, rfl, congrArg Parts.total payable_fresh.debt_allocated⟩
  · obtain ⟨payment, payment_mem, rfl⟩ := List.mem_map.mp fund_mem
    have payment_fresh := fresh.payments payment payment_mem
    exact ⟨payment.openAmount, List.mem_append_right _ (List.mem_map.mpr ⟨_, payment_mem, rfl⟩),
      payment_fresh.exact.openAmount, rfl, payment_fresh.fund_allocated⟩

namespace Candidate

variable {documents : Documents} {candidates : List Candidate} {candidate : Candidate}

/-- What stays open of an account is what stays open of its document. -/
theorem opened_sub_contributions (fresh : documents.Fresh)
    (exact : ∀ candidate ∈ candidates, candidate.Exact) {account : Account}
    (mem : account ∈ documents.book.accounts) :
    ∃ opened, (account.reference, opened) ∈ documents.openAmounts ∧
      opened.Exact account.currency ∧
      opened.amount.value - (candidates.map (contribution account.reference)).sum =
        ((account.openAmount - account.allocated -
          ((candidates.map entry).map (Entry.toAccount account.reference)).sum : Int) : Rat) /
            tenTo Money.places := by
  obtain ⟨opened, opened_mem, opened_exact, ticks_eq, nothing⟩ := fresh.opened mem
  refine ⟨opened, opened_mem, opened_exact, ?_⟩
  rw [opened_exact.value_eq, sum_contribution exact, ← sub_div, ticks_eq, nothing, Int.sub_zero]
  push_cast
  rfl

/-- Candidates telescope as their entries do. -/
theorem telescopes_of_entry (fresh : documents.Fresh)
    (all_exact : ∀ candidate ∈ candidates, candidate.Exact) (exact : candidate.Exact)
    (telescopes : candidate.entry.Telescopes documents.book (candidates.map entry)) :
    candidate.Telescopes documents candidates where
  total := by
    obtain ⟨total, total_eq, total_exact, ticks_eq⟩ :=
      Amounts.total_gives exact.amounts telescopes.small
    refine ⟨total, total_eq, total_exact.currency_eq, ?_⟩
    rw [total_exact.value_eq, ticks_eq, settled_eq exact]
    rfl
  payable := by
    obtain ⟨account, mem, reference_eq, currency_eq, stays⟩ := telescopes.payable
    obtain ⟨opened, opened_mem, opened_exact, stays_eq⟩ :=
      opened_sub_contributions fresh all_exact mem
    rw [reference_eq] at opened_mem stays_eq
    rw [currency_eq] at opened_exact
    refine ⟨opened, opened_mem,
      exact.payableOverUnder.currency_eq.trans opened_exact.currency_eq.symm, ?_⟩
    rw [exact.payableOverUnder.value_eq]
    exact (congrArg (fun ticks : Int => (ticks : Rat) / tenTo Money.places) stays).trans
      stays_eq.symm
  payment reference paid := by
    obtain ⟨account, mem, rfl, currency_eq, stays⟩ := telescopes.payment reference paid
    obtain ⟨opened, opened_mem, opened_exact, stays_eq⟩ :=
      opened_sub_contributions fresh all_exact mem
    rw [currency_eq] at opened_exact
    refine ⟨opened, opened_mem,
      exact.paymentOverUnder.currency_eq.trans opened_exact.currency_eq.symm, ?_⟩
    rw [stays_eq, ← stays, exact.paymentOverUnder.value_eq, Entry.paymentStays]
    have kind_eq : candidate.entry.kind = candidate.kind := rfl
    have ticks_eq : candidate.entry.paymentOverUnder = candidate.paymentOverUnder.ticks := rfl
    rw [kind_eq, ticks_eq]
    split_ifs
    · push_cast
      rw [neg_div, neg_neg]
    · rfl
  unpaid none_paid := by
    have nothing : candidate.paymentOverUnder.ticks = 0 := telescopes.unpaid none_paid
    rw [exact.paymentOverUnder.value_eq, nothing, Int.cast_zero, zero_div]

end Candidate

/-! ## Builds -/

namespace Run

variable {τ : Type} [TransactionManager τ]

/-- Every candidate of a build of fresh documents says what stays open of its two documents: the
open amounts that they were given with, less what the candidates up to this one contribute. -/
theorem over_under_telescopes (run : Run) (manager : Option τ) (fresh : run.documents.Fresh)
    (distinct : run.documents.references.Nodup) :
    (∀ (place : Nat) (candidate : Candidate),
      ((run.build manager).postings.map Posting.candidate)[place]? = some candidate →
        candidate.Telescopes run.documents
          (((run.build manager).postings.map Posting.candidate).take (place + 1))) ∧
      ∀ result, (run.build manager).result = .ok result →
        result.candidates = (run.build manager).postings.map Posting.candidate := by
  refine ⟨fun place candidate found => ?_,
    fun result returned => (returns_of_result returned).candidates_eq⟩
  rw [postings_build] at found ⊢
  rw [List.getElem?_map, Option.map_eq_some_iff] at found
  obtain ⟨posting, posting_eq, rfl⟩ := found
  have taken : run.progress.postings.take (place + 1) =
      run.progress.postings.take place ++ [posting] := by
    rw [List.take_add_one, posting_eq]
    rfl
  have begins : (run.progress.postings.take place).map Posting.deal ++ [posting.deal] <+:
      run.progress.history.deals := by
    have prefix_map := (List.take_prefix (place + 1) run.progress.postings).map Posting.deal
    rwa [taken, List.map_append] at prefix_map
  have telescopes := (progress_trail fresh).telescopes (fresh.sound _)
    (Documents.distinct_book distinct) begins
  have exact := exact_of_mem_candidates fresh
  rw [← List.map_take, taken]
  refine Candidate.telescopes_of_entry fresh ?_ ?_ ?_
  · intro candidate mem
    rw [← taken] at mem
    exact exact candidate (List.map_subset _ (List.take_subset _ _) mem)
  · exact exact _ (List.mem_map_of_mem (List.mem_of_getElem? posting_eq))
  · rw [List.map_append, List.map_map] at telescopes
    rw [List.map_map, List.map_append]
    exact telescopes

/-- The candidates of a run over the samples telescope. -/
theorem over_under_telescopes_samples :
    Samples.documents.Fresh ∧ Samples.run.documents.references.Nodup ∧
      ((Samples.run.build (none : Option MemoryManager)).postings.map
        Posting.candidate).length = 5 ∧
      ∀ (place : Nat) (candidate : Candidate),
        ((Samples.run.build (none : Option MemoryManager)).postings.map
          Posting.candidate)[place]? = some candidate →
            candidate.Telescopes Samples.run.documents
              (((Samples.run.build (none : Option MemoryManager)).postings.map
                Posting.candidate).take (place + 1)) :=
  ⟨Samples.documents_fresh, Samples.documents_distinct, by decide +kernel,
    (over_under_telescopes Samples.run (none : Option MemoryManager)
      Samples.documents_fresh Samples.documents_distinct).1⟩

end Run
end Settlement
