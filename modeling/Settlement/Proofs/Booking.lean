import Settlement.Proofs.Exact.Lines
import Settlement.Proofs.Reconciliation
import Settlement.Proofs.Store.Bookings

/-!
# The booked lines tell the same story

Where every payable is an invoice and no reference stands for two documents, the lines that a
build adds to a ledger account for everything that it allocates, and each header that it adds is
balanced in itself.
-/

namespace Settlement

/-- Lines account for what has been allocated to the payable of an invoice, part by part. -/
structure Payable.BookedOn (lines : List HeaderLine) (invoice : InvoiceId) (payable : Payable) :
    Prop where
  reference_eq : payable.reference = .invoice invoice
  pay : total (·.invoice == some invoice) (·.amount) lines = payable.allocated.pay.amount.value
  discount : total (·.invoice == some invoice) (·.discount) lines =
    payable.allocated.discount.amount.value
  writeOff : total (·.invoice == some invoice) (·.writeOff) lines =
    payable.allocated.writeOff.amount.value

namespace Header

/-- Every line is in the organization and currency of the header, and two lines cancel out. -/
structure Balanced (header : Header) : Prop where
  organization : ∀ line ∈ header.lines, line.organization = header.organization
  currency : ∀ line ∈ header.lines,
    line.amount.currency = header.currency ∧ line.discount.currency = header.currency ∧
      line.writeOff.currency = header.currency ∧ line.overUnder.currency = header.currency
  opposite : ∀ first second, header.lines = [first, second] →
    first.amount.amount.value + second.amount.amount.value = 0

variable {candidate : Candidate} {header : Header}

theorem MadeFor.exact_lines (made : MadeFor candidate header) (exact : candidate.Exact) :
    ∀ line ∈ header.lines,
      line.Exact header.currency ∧ line.organization = header.organization := by
  obtain ⟨transactionDate, accountingDate, header_eq⟩ := made
  obtain ⟨lines, lines_eq, rfl⟩ := ofCandidate_eq_ok.mp header_eq
  exact fun line mem => exact_of_mem_linesFor exact lines_eq (List.mem_filter.mp mem).1

/-- The header of an exact candidate is balanced. -/
theorem MadeFor.balanced (made : MadeFor candidate header) (exact : candidate.Exact) :
    header.Balanced where
  organization line mem := (made.exact_lines exact line mem).2
  currency line mem := by
    obtain ⟨amounts, -⟩ := made.exact_lines exact line mem
    exact ⟨amounts.amount.currency_eq, amounts.discount.currency_eq, amounts.writeOff.currency_eq,
      amounts.overUnder.currency_eq⟩
  opposite first second kept := by
    obtain ⟨transactionDate, accountingDate, header_eq⟩ := made
    obtain ⟨lines, lines_eq, rfl⟩ := ofCandidate_eq_ok.mp header_eq
    obtain ⟨first_eq, second_eq⟩ := opposite_of_linesFor lines_eq kept
    rw [first_eq, second_eq, exact.amounts.pay.value_eq, exact.amounts.pay.neg.value_eq,
      Money.ticks_neg exact.amounts.pay, ← add_div, Int.cast_neg, add_neg_cancel, zero_div]

/-- Headers without lines may be left out. -/
theorem flatMap_lines_filter (headers : List Header) :
    (headers.filter fun header => !header.isEmpty).flatMap lines = headers.flatMap lines := by
  induction headers with
  | nil => rfl
  | cons header rest ih =>
      cases empty : header.isEmpty with
      | true =>
          rw [List.filter_cons_of_neg (by simp [empty]), ih, List.flatMap_cons,
            List.isEmpty_iff.mp empty, List.nil_append]
      | false =>
          rw [List.filter_cons_of_pos (by simp [empty]), List.flatMap_cons, ih, List.flatMap_cons]

end Header

namespace Run

variable {run : Run}

/-- The headers of candidates are made one by one. -/
theorem madeFor_of_headers {candidates : List Candidate} {headers : List Header}
    (headers_eq : run.headers candidates = .ok headers) :
    List.Forall₂ Header.MadeFor candidates headers := by
  obtain ⟨transactionDate, -, headers_eq⟩ := bind_eq_ok.mp headers_eq
  obtain ⟨accountingDate, -, headers_eq⟩ := bind_eq_ok.mp headers_eq
  exact (mapM_eq_ok.mp headers_eq).imp fun candidate header made =>
    ⟨transactionDate, accountingDate, made⟩

/-- What is booked for candidates on a ledger in memory: their headers with lines, in order. -/
theorem bookUnlessDry_ok {candidates : List Candidate} {manager : MemoryManager}
    {allocations : List AllocationId} {after : Option MemoryManager} (wet : run.dryRun = false)
    (booked : run.bookUnlessDry candidates (some manager) = (.ok allocations, after)) :
    ∃ headers closed, ∃ added : List StoredAllocation,
      List.Forall₂ Header.MadeFor candidates headers ∧ after = some closed ∧
        closed.ledger.entries = manager.ledger.entries ++ added ∧
        added.map StoredAllocation.header = headers.filter (fun header => !header.isEmpty) ∧
        allocations = added.map StoredAllocation.id := by
  unfold bookUnlessDry at booked
  cases candidates with
  | nil =>
      cases booked
      exact ⟨[], manager, [], .nil, rfl, by simp, rfl, rfl⟩
  | cons candidate rest =>
      simp only [List.isEmpty_cons, wet, Bool.or_self, Bool.false_eq_true, if_false, book] at booked
      cases headers_eq : run.headers (candidate :: rest) with
      | error error =>
          rw [headers_eq] at booked
          cases booked
      | ok headers =>
          rw [headers_eq] at booked
          cases booked_eq : bookHeaders headers manager with
          | mk outcome closed =>
              simp only [booked_eq, Prod.mk.injEq] at booked
              obtain ⟨rfl, rfl⟩ := booked
              obtain ⟨added, entries_eq, added_eq, ids_eq⟩ := (bookHeaders_ok booked_eq).booked
              exact ⟨headers, closed, added, madeFor_of_headers headers_eq, rfl, entries_eq,
                added_eq, ids_eq⟩

section

variable {headers : List Header} (fresh : run.documents.Fresh)
  (made : List.Forall₂ Header.MadeFor run.progress.candidates headers)

include fresh made

theorem balanced_of_mem_headers : ∀ header ∈ headers, header.Balanced := by
  intro header mem
  obtain ⟨candidate, candidate_mem, made_for⟩ := forall₂_mem_right made mem
  exact made_for.balanced (exact_of_mem_candidates fresh candidate candidate_mem)

theorem exact_of_mem_lines :
    ∀ line ∈ headers.flatMap Header.lines, ∃ currency, line.Exact currency := by
  intro line mem
  obtain ⟨header, header_mem, line_mem⟩ := List.mem_flatMap.mp mem
  obtain ⟨candidate, candidate_mem, made_for⟩ := forall₂_mem_right made header_mem
  have exact := exact_of_mem_candidates fresh candidate candidate_mem
  exact ⟨header.currency, (made_for.exact_lines exact line line_mem).1⟩

/-- The lines of all headers settle what has been allocated to a payable. -/
theorem payable_bookedOn (distinct : run.documents.references.Nodup)
    (invoices : ∀ payable ∈ run.documents.payables, payable.kind = .invoice) {payable : Payable}
    (mem : payable ∈ run.progress.documents.payables) :
    ∃ invoice, payable.BookedOn (headers.flatMap Header.lines) invoice := by
  have tabled : run.progress.documents.book.Tabled :=
    ((progress_trail fresh).later (fresh.sound _)).tabled (fresh.tabled invoices)
  obtain ⟨invoice, reference_eq⟩ := tabled.debts payable.debt (List.mem_map_of_mem mem)
  have reference_eq : payable.reference = .invoice invoice := reference_eq
  have allocated_eq := (allocated_of_mem_payables fresh distinct mem).1
  rw [reference_eq] at allocated_eq
  have settled_eq := allocated_eq.trans (Header.settled_headers made
    (exact_of_mem_candidates fresh) (sided_of_mem_candidates fresh invoices) invoice).symm
  have allocated_exact := ((progress_exact fresh).documents.payables payable mem).allocated
  have lines_exact := exact_of_mem_lines fresh made
  refine ⟨invoice, reference_eq, ?_, ?_, ?_⟩
  · rw [total_eq _ fun line mem => (lines_exact line mem).choose_spec.amount.grid,
      allocated_exact.pay.value_eq, ← Amounts.pay_parts, settled_eq]
    rfl
  · rw [total_eq _ fun line mem => (lines_exact line mem).choose_spec.discount.grid,
      allocated_exact.discount.value_eq, ← Amounts.discount_parts, settled_eq]
    rfl
  · rw [total_eq _ fun line mem => (lines_exact line mem).choose_spec.writeOff.grid,
      allocated_exact.writeOff.value_eq, ← Amounts.writeOff_parts, settled_eq]
    rfl

/-- The lines of all headers use what has been allocated to a payment. -/
theorem payment_bookedOn (distinct : run.documents.references.Nodup)
    (invoices : ∀ payable ∈ run.documents.payables, payable.kind = .invoice) {payment : Payment}
    (mem : payment ∈ run.progress.documents.payments) :
    total (·.payment == some payment.id) (·.amount) (headers.flatMap Header.lines) =
      payment.allocated.amount.value := by
  have used_eq := (allocated_of_mem_payments fresh distinct mem).trans (Header.used_headers made
    (exact_of_mem_candidates fresh) (sided_of_mem_candidates fresh invoices) payment.id).symm
  have allocated_exact := ((progress_exact fresh).documents.payments payment mem).allocated
  have lines_exact := exact_of_mem_lines fresh made
  rw [total_eq _ fun line mem => (lines_exact line mem).choose_spec.amount.grid,
    allocated_exact.value_eq, used_eq]
  rfl

end

/-- The lines that a build of invoices and payments adds to a ledger account for its allocations,
and every header that it adds is balanced, whatever the ledger has held before. -/
theorem build_books_balances (run : Run) (manager : MemoryManager) {result : RunResult}
    (fresh : run.documents.Fresh) (distinct : run.documents.references.Nodup)
    (invoices : ∀ payable ∈ run.documents.payables, payable.kind = .invoice)
    (wet : run.dryRun = false) (returned : (run.build (some manager)).result = .ok result) :
    ∃ closed, ∃ added : List StoredAllocation,
      (run.build (some manager)).manager = some closed ∧
        closed.ledger.entries = manager.ledger.entries ++ added ∧
        (∀ stored ∈ added, stored.header.Balanced) ∧
        (∀ payable ∈ (run.build (some manager)).run.documents.payables,
          ∃ invoice, payable.BookedOn (added.flatMap (·.header.lines)) invoice) ∧
        ∀ payment ∈ (run.build (some manager)).run.documents.payments,
          total (·.payment == some payment.id) (·.amount) (added.flatMap (·.header.lines)) =
            payment.allocated.amount.value := by
  have returns := returns_of_result returned
  have candidates_eq : result.candidates = run.progress.candidates := by
    rw [returns.candidates_eq, postings_build]
    rfl
  have booked := returns.booked
  rw [candidates_eq] at booked
  have still_wet : (run.build (some manager)).run.dryRun = false := by
    rw [run_build]
    exact wet
  obtain ⟨headers, closed, added, made, closed_eq, entries_eq, added_eq, -⟩ :=
    bookUnlessDry_ok still_wet booked
  have lines_eq : added.flatMap (·.header.lines) = headers.flatMap Header.lines := by
    rw [← Header.flatMap_lines_filter, ← added_eq, List.flatMap_map]
  refine ⟨closed, added, closed_eq, entries_eq, ?_, ?_, ?_⟩
  · intro stored mem
    have kept : stored.header ∈ headers.filter fun header => !header.isEmpty := by
      rw [← added_eq]
      exact List.mem_map_of_mem mem
    exact balanced_of_mem_headers fresh made stored.header (List.mem_filter.mp kept).1
  · rw [run_build, lines_eq]
    exact fun payable mem => payable_bookedOn fresh made distinct invoices mem
  · rw [run_build, lines_eq]
    exact fun payment mem => payment_bookedOn fresh made distinct invoices mem

end Run

/-- A manager that has booked and linked a header with two lines before. -/
def Samples.manager : MemoryManager where
  ledger :=
    { entries :=
        [{ id := ⟨IdSupply.nth 0⟩
           header :=
             { organization := Samples.organization
               currency := .usd
               transactionDate := Samples.transactionDate
               accountingDate := Samples.accountingDate
               lines :=
                 [{ HeaderLine.blank Samples.organization none .usd with
                      invoice := some (.ofNat 1), amount := .ofMinor 500 .usd },
                   { HeaderLine.blank Samples.organization none .usd with
                       invoice := some (.ofNat 2), amount := .ofMinor (-500) .usd }] }
           lines := [⟨IdSupply.nth 1⟩, ⟨IdSupply.nth 2⟩] }]
      counters :=
        [(⟨IdSupply.nth 2⟩, ⟨IdSupply.nth 1⟩), (⟨IdSupply.nth 1⟩, ⟨IdSupply.nth 2⟩)] }
  supply := ⟨3⟩
  commits := 1

/-- A run over the samples adds five headers to a ledger that has been used before: what a credit
memo, a bill and a payment settle of an invoice, what one payment takes from another, and a discount
that settles nothing. -/
theorem Run.build_books_balances_samples :
    Samples.documents.Fresh ∧ Samples.run.documents.references.Nodup ∧
      (∀ payable ∈ Samples.run.documents.payables, payable.kind = .invoice) ∧
      Samples.run.dryRun = false ∧
      ∃ result, (Samples.run.build (some Samples.manager)).result = .ok result ∧
        ∃ closed, ∃ added : List StoredAllocation,
          (Samples.run.build (some Samples.manager)).manager = some closed ∧
            closed.ledger.entries = Samples.manager.ledger.entries ++ added ∧
            (added.map fun stored => stored.header.lines.map (·.amount.ticks)) =
              [[305000, -305000], [200000, -200000], [497500], [-110000, 110000], [0]] ∧
            (∀ stored ∈ added, stored.header.Balanced) ∧
            (∀ payable ∈ (Samples.run.build (some Samples.manager)).run.documents.payables,
              ∃ invoice, payable.BookedOn (added.flatMap (·.header.lines)) invoice) ∧
            ∀ payment ∈ (Samples.run.build (some Samples.manager)).run.documents.payments,
              total (·.payment == some payment.id) (·.amount) (added.flatMap (·.header.lines)) =
                payment.allocated.amount.value := by
  have invoices : ∀ payable ∈ Samples.run.documents.payables, payable.kind = .invoice := by
    decide +kernel
  obtain ⟨result, returned⟩ :
      ∃ result, (Samples.run.build (some Samples.manager)).result = .ok result :=
    exists_eq_ok (by decide +kernel)
  obtain ⟨closed, added, closed_eq, entries_eq, balanced, payables, payments⟩ :=
    build_books_balances Samples.run Samples.manager Samples.documents_fresh
      Samples.documents_distinct invoices rfl returned
  have amounts_eq :
      ((Samples.run.build (some Samples.manager)).manager.map fun closed =>
        (closed.ledger.entries.drop 1).map fun stored =>
          stored.header.lines.map (·.amount.ticks)) =
        some [[305000, -305000], [200000, -200000], [497500], [-110000, 110000], [0]] := by
    decide +kernel
  rw [closed_eq, Option.map_some, entries_eq, Option.some.injEq] at amounts_eq
  exact ⟨Samples.documents_fresh, Samples.documents_distinct, invoices, rfl, result, returned,
    closed, added, closed_eq, entries_eq, amounts_eq, balanced, payables, payments⟩

end Settlement
