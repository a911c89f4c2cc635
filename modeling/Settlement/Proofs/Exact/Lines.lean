import Settlement.Header
import Settlement.Proofs.Exact.Sides
import Settlement.Proofs.Exact.Totals

/-!
# The lines of a candidate

The header of a candidate has at most two lines.  Those with the identifier of a document settle
together what the candidate contributes to it; leaving out a line that moves nothing does not
change that.
-/

namespace Settlement

namespace HeaderLine

/-- All amounts of the line are exact in its currency. -/
structure Exact (currency : Currency) (line : HeaderLine) : Prop where
  amount : line.amount.Exact currency
  discount : line.discount.Exact currency
  writeOff : line.writeOff.Exact currency
  overUnder : line.overUnder.Exact currency

/-- What lines settle of an invoice together. -/
def settled (invoice : InvoiceId) (lines : List HeaderLine) : Parts :=
  ⟨totalTicks (·.invoice == some invoice) (·.amount) lines,
    totalTicks (·.invoice == some invoice) (·.discount) lines,
    totalTicks (·.invoice == some invoice) (·.writeOff) lines⟩

/-- What lines use of a payment together. -/
def used (payment : PaymentId) (lines : List HeaderLine) : Int :=
  totalTicks (·.payment == some payment) (·.amount) lines

/-- What a line settles, in ticks. -/
def parts (line : HeaderLine) : Parts :=
  ⟨line.amount.ticks, line.discount.ticks, line.writeOff.ticks⟩

@[simp]
theorem settled_nil (invoice : InvoiceId) : settled invoice [] = 0 := rfl

@[simp]
theorem settled_cons (invoice : InvoiceId) (line : HeaderLine) (rest : List HeaderLine) :
    settled invoice (line :: rest) =
      (if line.invoice = some invoice then line.parts else 0) + settled invoice rest := by
  simp only [settled, totalTicks_cons, beq_iff_eq]
  split_ifs <;> rfl

theorem settled_append (invoice : InvoiceId) (first second : List HeaderLine) :
    settled invoice (first ++ second) = settled invoice first + settled invoice second := by
  simp only [settled, totalTicks_append]
  rfl

theorem used_append (payment : PaymentId) (first second : List HeaderLine) :
    used payment (first ++ second) = used payment first + used payment second :=
  totalTicks_append _ _ _ _

theorem isAllZero_iff (line : HeaderLine) :
    line.isAllZero = true ↔ line.amount.ticks = 0 ∧ line.discount.ticks = 0 ∧
      line.writeOff.ticks = 0 ∧ line.overUnder.ticks = 0 := by
  simp only [isAllZero, Bool.and_eq_true, Money.isZero_iff, and_assoc]

/-- Lines that move nothing settle nothing. -/
theorem settled_filter (invoice : InvoiceId) (lines : List HeaderLine) :
    settled invoice (lines.filter fun line => !line.isAllZero) = settled invoice lines := by
  have nothing : ∀ line ∈ lines, (!line.isAllZero) = false →
      line.amount.ticks = 0 ∧ line.discount.ticks = 0 ∧ line.writeOff.ticks = 0 ∧
        line.overUnder.ticks = 0 := by
    intro line _ dropped
    rw [Bool.not_eq_false'] at dropped
    exact line.isAllZero_iff.mp dropped
  rw [settled, settled, totalTicks_filter fun line mem dropped => (nothing line mem dropped).1,
    totalTicks_filter fun line mem dropped => (nothing line mem dropped).2.1,
    totalTicks_filter fun line mem dropped => (nothing line mem dropped).2.2.1]

/-- Lines that move nothing use nothing. -/
theorem used_filter (payment : PaymentId) (lines : List HeaderLine) :
    used payment (lines.filter fun line => !line.isAllZero) = used payment lines := by
  apply totalTicks_filter
  intro line _ dropped
  rw [Bool.not_eq_false'] at dropped
  exact (line.isAllZero_iff.mp dropped).1

end HeaderLine

namespace Header

variable {candidate : Candidate} {header : Header} {lines : List HeaderLine}
  {transactionDate accountingDate : Date}

theorem foldl_addLine (header : Header) (lines : List HeaderLine) :
    lines.foldl addLine header =
      { header with lines := header.lines ++ lines.filter fun line => !line.isAllZero } := by
  induction lines generalizing header with
  | nil => simp
  | cons line rest ih =>
      rw [List.foldl_cons, ih, addLine]
      cases zero : line.isAllZero <;> simp [zero]

/-- The header of a candidate has the lines for it that move something. -/
theorem ofCandidate_eq_ok :
    ofCandidate transactionDate accountingDate candidate = .ok header ↔
      ∃ lines, linesFor candidate = .ok lines ∧
        header =
          { organization := candidate.organization
            currency := candidate.currency
            transactionDate
            accountingDate
            lines := lines.filter fun line => !line.isAllZero } := by
  rw [ofCandidate, bind_eq_ok]
  refine exists_congr fun lines => and_congr_right fun _ => ?_
  dsimp only
  rw [foldl_addLine, List.nil_append]
  exact ⟨fun same => (Except.ok.inj same).symm, fun same => congrArg Except.ok same.symm⟩

/-- An exact candidate has exact lines of its organization. -/
theorem exact_of_mem_linesFor (exact : candidate.Exact) (lines_eq : linesFor candidate = .ok lines)
    {line : HeaderLine} (mem : line ∈ lines) :
    line.Exact candidate.currency ∧ line.organization = candidate.organization := by
  have payable_exact : (payableLine candidate).Exact candidate.currency :=
    ⟨exact.amounts.pay, exact.amounts.discount, exact.amounts.writeOff, exact.payableOverUnder⟩
  have counter_exact : (counterLine candidate).Exact candidate.currency :=
    ⟨exact.amounts.pay.neg, Money.exact_zero _, Money.exact_zero _, exact.paymentOverUnder⟩
  unfold linesFor at lines_eq
  split at lines_eq
  · cases lines_eq
    obtain rfl := List.mem_singleton.mp mem
    exact ⟨⟨payable_exact.1, payable_exact.2, payable_exact.3, payable_exact.4⟩, rfl⟩
  · cases lines_eq
    rcases List.mem_pair.mp mem with rfl | rfl
    · exact ⟨⟨payable_exact.1, payable_exact.2, payable_exact.3, payable_exact.4⟩, rfl⟩
    · exact ⟨⟨counter_exact.1, counter_exact.2, counter_exact.3, counter_exact.4⟩, rfl⟩
  · cases lines_eq
    obtain rfl := List.mem_singleton.mp mem
    exact ⟨⟨payable_exact.1, payable_exact.2, payable_exact.3, payable_exact.4⟩, rfl⟩
  · cases lines_eq
    rcases List.mem_pair.mp mem with rfl | rfl
    · exact ⟨⟨payable_exact.1, payable_exact.2, payable_exact.3, payable_exact.4⟩, rfl⟩
    · exact ⟨⟨counter_exact.1, counter_exact.2, counter_exact.3, counter_exact.4⟩, rfl⟩
  · cases lines_eq

/-- Two lines for a candidate have opposite amounts. -/
theorem opposite_of_linesFor (lines_eq : linesFor candidate = .ok lines)
    {first second : HeaderLine}
    (kept : (lines.filter fun line => !line.isAllZero) = [first, second]) :
    first.amount = candidate.amounts.pay ∧ second.amount = candidate.amounts.pay.neg := by
  have bound := congrArg List.length kept
  have shorter := List.length_filter_le (fun line : HeaderLine => !line.isAllZero) lines
  have all_kept : ∀ one two : HeaderLine, lines = [one, two] → one = first ∧ two = second := by
    rintro one two rfl
    have whole := List.length_filter_eq_length_iff.mp bound
    rw [List.filter_eq_self.mpr whole] at kept
    simpa using kept
  unfold linesFor at lines_eq
  split at lines_eq
  · cases lines_eq
    rw [bound] at shorter
    simp at shorter
  · cases lines_eq
    obtain ⟨rfl, rfl⟩ := all_kept _ _ rfl
    exact ⟨rfl, rfl⟩
  · cases lines_eq
    rw [bound] at shorter
    simp at shorter
  · cases lines_eq
    obtain ⟨rfl, rfl⟩ := all_kept _ _ rfl
    exact ⟨rfl, rfl⟩
  · cases lines_eq

theorem settled_pair (exact : candidate.Exact) (first second invoice : InvoiceId) :
    HeaderLine.settled invoice
        [{ payableLine candidate with invoice := some first },
          { counterLine candidate with invoice := some second }] =
      (if first = invoice then candidate.amounts.parts else 0) -
        if second = invoice then Parts.ofPay candidate.amounts.pay.ticks else 0 := by
  simp only [HeaderLine.settled_cons, HeaderLine.settled_nil, HeaderLine.parts, payableLine,
    counterLine, HeaderLine.blank, Money.ticks_neg exact.amounts.pay, Money.ticks_zero,
    Option.some.injEq]
  split_ifs <;> ext <;> simp

theorem used_pair (exact : candidate.Exact) (first second payment : PaymentId) :
    HeaderLine.used payment
        [{ payableLine candidate with payment := some first },
          { counterLine candidate with payment := some second }] =
      (if first = payment then candidate.amounts.pay.ticks else 0) -
        if second = payment then candidate.amounts.pay.ticks else 0 := by
  simp only [HeaderLine.used, totalTicks_cons, totalTicks_nil, payableLine, counterLine,
    Money.ticks_neg exact.amounts.pay, beq_iff_eq, Option.some.injEq]
  split_ifs <;> simp

/-- The lines for a candidate settle of an invoice what the candidate contributes to it. -/
theorem settled_linesFor (exact : candidate.Exact)
    (sided : Sided candidate.kind candidate.payable candidate.payment)
    (lines_eq : linesFor candidate = .ok lines) (invoice : InvoiceId) :
    HeaderLine.settled invoice lines = candidate.entry.toDebt (.invoice invoice) := by
  obtain ⟨kind, organization, partner, payable, payment, amounts, payableOver, paymentOver⟩ :=
    candidate
  dsimp only at sided
  cases sided with
  | paid settled payment =>
      cases lines_eq
      simp [Entry.toDebt, Candidate.entry, payableLine, HeaderLine.parts, Amounts.parts]
  | credited settled memo =>
      cases lines_eq
      rw [settled_pair exact]
      simp [Entry.toDebt, Candidate.entry]
  | compensated settled bill =>
      cases lines_eq
      rw [settled_pair exact]
      simp [Entry.toDebt, Candidate.entry]
  | reversed made received =>
      cases lines_eq
      simp [Entry.toDebt, Candidate.entry, payableLine, counterLine, HeaderLine.blank]
  | conceded settled =>
      cases lines_eq
      simp [Entry.toDebt, Candidate.entry, payableLine, HeaderLine.parts, Amounts.parts]

/-- The lines for a candidate use of a payment what the candidate contributes to it. -/
theorem used_linesFor (exact : candidate.Exact)
    (sided : Sided candidate.kind candidate.payable candidate.payment)
    (lines_eq : linesFor candidate = .ok lines) (payment : PaymentId) :
    HeaderLine.used payment lines = candidate.entry.toFund (.payment payment) := by
  obtain ⟨kind, organization, partner, payable, paid, amounts, payableOver, paymentOver⟩ :=
    candidate
  dsimp only at sided
  cases sided with
  | paid invoice used =>
      cases lines_eq
      simp [HeaderLine.used, Entry.toFund, Candidate.entry, payableLine]
  | credited invoice memo =>
      cases lines_eq
      simp [HeaderLine.used, Entry.toFund, Candidate.entry, payableLine, counterLine,
        HeaderLine.blank]
  | compensated invoice bill =>
      cases lines_eq
      simp [HeaderLine.used, Entry.toFund, Candidate.entry, payableLine, counterLine,
        HeaderLine.blank]
  | reversed made received =>
      cases lines_eq
      rw [used_pair exact]
      simp [Entry.toFund, Candidate.entry]
  | conceded invoice =>
      cases lines_eq
      simp [HeaderLine.used, Entry.toFund, Candidate.entry, payableLine, HeaderLine.blank]

/-! ## Headers of several candidates -/

/-- A header is the one for a candidate, on some dates. -/
def MadeFor (candidate : Candidate) (header : Header) : Prop :=
  ∃ transactionDate accountingDate,
    ofCandidate transactionDate accountingDate candidate = .ok header

variable {candidates : List Candidate} {headers : List Header}

/-- What the lines of headers settle of an invoice is what the candidates contribute to it. -/
theorem settled_headers (made : List.Forall₂ MadeFor candidates headers)
    (exact : ∀ candidate ∈ candidates, candidate.Exact)
    (sided : ∀ candidate ∈ candidates,
      Sided candidate.kind candidate.payable candidate.payment) (invoice : InvoiceId) :
    HeaderLine.settled invoice (headers.flatMap Header.lines) =
      (candidates.map fun candidate => candidate.entry.toDebt (.invoice invoice)).sum := by
  induction made with
  | nil => rfl
  | cons head rest ih =>
      obtain ⟨transactionDate, accountingDate, header_eq⟩ := head
      obtain ⟨lines, lines_eq, rfl⟩ := ofCandidate_eq_ok.mp header_eq
      rw [List.flatMap_cons, HeaderLine.settled_append, List.map_cons, List.sum_cons,
        HeaderLine.settled_filter,
        settled_linesFor (exact _ (by simp)) (sided _ (by simp)) lines_eq,
        ih (fun other mem => exact other (by simp [mem]))
          fun other mem => sided other (by simp [mem])]

/-- What the lines of headers use of a payment is what the candidates contribute to it. -/
theorem used_headers (made : List.Forall₂ MadeFor candidates headers)
    (exact : ∀ candidate ∈ candidates, candidate.Exact)
    (sided : ∀ candidate ∈ candidates,
      Sided candidate.kind candidate.payable candidate.payment) (payment : PaymentId) :
    HeaderLine.used payment (headers.flatMap Header.lines) =
      (candidates.map fun candidate => candidate.entry.toFund (.payment payment)).sum := by
  induction made with
  | nil => rfl
  | cons head rest ih =>
      obtain ⟨transactionDate, accountingDate, header_eq⟩ := head
      obtain ⟨lines, lines_eq, rfl⟩ := ofCandidate_eq_ok.mp header_eq
      rw [List.flatMap_cons, HeaderLine.used_append, List.map_cons, List.sum_cons,
        HeaderLine.used_filter, used_linesFor (exact _ (by simp)) (sided _ (by simp)) lines_eq,
        ih (fun other mem => exact other (by simp [mem]))
          fun other mem => sided other (by simp [mem])]

end Header
end Settlement
