import Settlement.Candidate
import Settlement.Documents
import Settlement.Proofs.Exact.Parts

/-!
# The book of a settlement

The documents of a settlement with their amounts in whole ticks: a debt for each payable and a
fund for each payment.  A deal is what one step settles: the entry that announces it and the book
after it.  Only whole numbers are added and compared here, so nothing can break.
-/

namespace Settlement

/-! ## Debts and funds -/

/-- What a payable says and keeps saying. -/
structure Debt.Terms where
  kind : PayableKind
  organization : OrganizationId
  partner : Option PartyId
  side : TradeSide
  creditMemo : Bool
  reference : Reference
  currency : Currency
  /-- The open amount in ticks. -/
  openAmount : Int
  /-- The parts that the document started with. -/
  initial : Parts
  deriving DecidableEq, Repr

/-- A payable in ticks. -/
structure Debt extends Debt.Terms where
  /-- What is left to allocate. -/
  remaining : Parts
  /-- What has been allocated. -/
  allocated : Parts
  deriving DecidableEq, Repr

/-- What a payment says and keeps saying. -/
structure Fund.Terms where
  organization : OrganizationId
  partner : Option PartyId
  direction : Direction
  reference : Reference
  currency : Currency
  /-- The open amount in ticks. -/
  openAmount : Int
  /-- The ticks that the payment started with. -/
  initial : Int
  deriving DecidableEq, Repr

/-- A payment in ticks. -/
structure Fund extends Fund.Terms where
  /-- What is left to allocate. -/
  remaining : Int
  /-- What has been allocated. -/
  allocated : Int
  deriving DecidableEq, Repr

namespace Debt

/-- Something is left to pay. -/
abbrev IsOpen (debt : Debt) : Prop := debt.remaining.pay ≠ 0

/-- Records an allocation. -/
def charge (debt : Debt) (parts : Parts) : Debt :=
  { debt with remaining := debt.remaining - parts, allocated := debt.allocated + parts }

/-- What would stay open after an allocation. -/
def projected (debt : Debt) (parts : Parts) : Int :=
  debt.openAmount - debt.allocated.total - parts.total

/-- What is left to pay goes where the policy says. -/
def move (policy : LeftoverPolicy) (debt : Debt) : Debt :=
  match policy with
  | .leaveOpen => debt
  | .discount =>
      { debt with
        remaining :=
          ⟨0, debt.remaining.discount + debt.remaining.pay, debt.remaining.writeOff⟩ }
  | .writeOff =>
      { debt with
        remaining :=
          ⟨0, debt.remaining.discount, debt.remaining.writeOff + debt.remaining.pay⟩ }

/-- The part of the pay amount that neither is left nor has been paid. -/
def waived (debt : Debt) : Int := debt.initial.pay - debt.allocated.pay - debt.remaining.pay

@[simp]
theorem terms_charge (debt : Debt) (parts : Parts) :
    (debt.charge parts).toTerms = debt.toTerms := rfl

@[simp]
theorem remaining_charge (debt : Debt) (parts : Parts) :
    (debt.charge parts).remaining = debt.remaining - parts := rfl

@[simp]
theorem allocated_charge (debt : Debt) (parts : Parts) :
    (debt.charge parts).allocated = debt.allocated + parts := rfl

@[simp]
theorem charge_zero (debt : Debt) : debt.charge 0 = debt := by
  rw [charge, sub_zero, add_zero]

@[simp]
theorem terms_move (policy : LeftoverPolicy) (debt : Debt) :
    (debt.move policy).toTerms = debt.toTerms := by
  cases policy <;> rfl

@[simp]
theorem allocated_move (policy : LeftoverPolicy) (debt : Debt) :
    (debt.move policy).allocated = debt.allocated := by
  cases policy <;> rfl

@[simp]
theorem total_remaining_move (policy : LeftoverPolicy) (debt : Debt) :
    (debt.move policy).remaining.total = debt.remaining.total := by
  cases policy with
  | leaveOpen => rfl
  | discount =>
      simp only [move, Parts.total]
      omega
  | writeOff =>
      simp only [move, Parts.total]
      omega

theorem magnitude_remaining_move_le (policy : LeftoverPolicy) (debt : Debt) :
    (debt.move policy).remaining.magnitude ≤ debt.remaining.magnitude := by
  cases policy with
  | leaveOpen => exact Nat.le_refl _
  | discount =>
      simp only [move, Parts.magnitude]
      omega
  | writeOff =>
      simp only [move, Parts.magnitude]
      omega

end Debt

namespace Fund

/-- Something is left to allocate. -/
abbrev IsOpen (fund : Fund) : Prop := fund.remaining ≠ 0

/-- Records an allocation. -/
def draw (fund : Fund) (amount : Int) : Fund :=
  { fund with remaining := fund.remaining - amount, allocated := fund.allocated + amount }

/-- What would stay open after an allocation. -/
def projected (fund : Fund) (amount : Int) : Int := fund.openAmount - fund.allocated - amount

@[simp]
theorem terms_draw (fund : Fund) (amount : Int) : (fund.draw amount).toTerms = fund.toTerms := rfl

@[simp]
theorem remaining_draw (fund : Fund) (amount : Int) :
    (fund.draw amount).remaining = fund.remaining - amount := rfl

@[simp]
theorem allocated_draw (fund : Fund) (amount : Int) :
    (fund.draw amount).allocated = fund.allocated + amount := rfl

@[simp]
theorem draw_zero (fund : Fund) : fund.draw 0 = fund := by
  rw [draw, sub_zero, add_zero]

end Fund

/-! ## Sources -/

/-- A document that acts as a payment, in ticks. -/
inductive Source where
  | fund (fund : Fund)
  | creditMemo (debt : Debt)
  | purchaseInvoice (debt : Debt)
  deriving DecidableEq, Repr

namespace Source

/-- Where the document is kept. -/
def reference : Source → Reference
  | fund document => document.reference
  | creditMemo document | purchaseInvoice document => document.reference

/-- The currency of the document. -/
def currency : Source → Currency
  | fund document => document.currency
  | creditMemo document | purchaseInvoice document => document.currency

/-- The ticks that the document started with, as a payment. -/
def initial : Source → Int
  | fund document => document.initial
  | creditMemo document | purchaseInvoice document => -document.initial.pay

/-- The ticks that are left, as a payment. -/
def remaining : Source → Int
  | fund document => document.remaining
  | creditMemo document | purchaseInvoice document => -document.remaining.pay

/-- Something is left to pay with. -/
abbrev IsOpen (source : Source) : Prop := source.remaining ≠ 0

/-- What would stay open after an amount is paid. -/
def projected (source : Source) (amount : Int) : Int :=
  match source with
  | fund document => document.projected amount
  | creditMemo document | purchaseInvoice document => document.projected (Parts.ofPay (-amount))

/-- Records an amount that is paid with the document. -/
def draw (source : Source) (amount : Int) : Source :=
  match source with
  | fund document => fund (document.draw amount)
  | creditMemo document => creditMemo (document.charge (Parts.ofPay (-amount)))
  | purchaseInvoice document => purchaseInvoice (document.charge (Parts.ofPay (-amount)))

/-- Whether the document may settle a debt. -/
def CanPay (source : Source) (debt : Debt) : Prop :=
  match source with
  | fund document => debt.currency = document.currency
  | creditMemo memo =>
      debt.kind = .invoice ∧ debt.side = memo.side ∧ debt.currency = memo.currency
  | purchaseInvoice invoice =>
      debt.kind = .invoice ∧ debt.side = .sales ∧ debt.currency = invoice.currency

instance : (source : Source) → (debt : Debt) → Decidable (source.CanPay debt)
  | fund document, debt => inferInstanceAs (Decidable (debt.currency = document.currency))
  | creditMemo memo, debt =>
      inferInstanceAs
        (Decidable (debt.kind = .invoice ∧ debt.side = memo.side ∧ debt.currency = memo.currency))
  | purchaseInvoice invoice, debt =>
      inferInstanceAs
        (Decidable (debt.kind = .invoice ∧ debt.side = .sales ∧ debt.currency = invoice.currency))

/-- The document may settle the debt, and both started on the same side of zero. -/
abbrev Fits (source : Source) (debt : Debt) : Prop :=
  source.CanPay debt ∧ (debt.initial.pay < 0 ↔ source.initial < 0)

/-- How much of what is left to pay the document can take. -/
def share (source : Source) (debt : Debt) : Int :=
  if 0 ≤ debt.remaining.pay ∧ 0 ≤ source.remaining then
    min debt.remaining.pay source.remaining
  else if debt.remaining.pay < 0 ∧ source.remaining < 0 then
    max debt.remaining.pay source.remaining
  else
    0

end Source

/-! ## Entries and deals -/

/-- A candidate in ticks. -/
structure Entry where
  kind : CandidateKind
  organization : OrganizationId
  partner : Option PartyId
  payable : Reference
  payment : Option Reference
  currency : Currency
  /-- What is settled in which way. -/
  parts : Parts
  /-- What stays open of the payable. -/
  payableOverUnder : Int
  /-- What stays open of the payment. -/
  paymentOverUnder : Int
  deriving DecidableEq, Repr

/-- Why an entry is refused: it has one document on both sides. -/
def Entry.refusal? (entry : Entry) : Option AllocationError :=
  if entry.payment = some entry.payable then some (.sameDocument entry.payable) else none

/-- The documents of a settlement in ticks. -/
structure Book where
  debts : List Debt
  funds : List Fund
  deriving DecidableEq, Repr

/-- An entry and the book once it is recorded. -/
structure Deal where
  entry : Entry
  after : Book
  deriving DecidableEq, Repr

namespace Book

/-- The document behind a means of payment. -/
def source? (book : Book) : Means → Option Source
  | .payment index => book.funds[index]?.map .fund
  | .creditMemo index => book.debts[index]?.map .creditMemo
  | .purchaseInvoice index => book.debts[index]?.map .purchaseInvoice

/-- Changes one debt. -/
def changeDebt (book : Book) (index : Nat) (change : Debt → Debt) : Book :=
  { book with debts := book.debts.modify index change }

/-- Changes one fund. -/
def changeFund (book : Book) (index : Nat) (change : Fund → Fund) : Book :=
  { book with funds := book.funds.modify index change }

/-- Records an allocation to a debt. -/
def charge (book : Book) (index : Nat) (parts : Parts) : Book :=
  book.changeDebt index (·.charge parts)

/-- Records an amount paid with a document. -/
def draw (book : Book) (means : Means) (amount : Int) : Book :=
  match means with
  | .payment index => book.changeFund index (·.draw amount)
  | .creditMemo index | .purchaseInvoice index => book.charge index (Parts.ofPay (-amount))

/-- The entry for a debt that a document pays. -/
def pairEntry (kind : CandidateKind) (debt : Debt) (source : Source) (parts : Parts) : Entry where
  kind := kind
  organization := debt.organization
  partner := debt.partner
  payable := debt.reference
  payment := some source.reference
  currency := debt.currency
  parts := parts
  payableOverUnder := debt.projected parts
  paymentOverUnder := source.projected parts.pay

/-- The entry for parts of a debt that are settled without a payment. -/
def concessionEntry (debt : Debt) (parts : Parts) : Entry where
  kind := .invoiceDiscountOrWriteOff
  organization := debt.organization
  partner := debt.partner
  payable := debt.reference
  payment := none
  currency := debt.currency
  parts := parts
  payableOverUnder := debt.projected parts
  paymentOverUnder := 0

/-- The entry for a payment received that stands against a payment made. -/
def reversalEntry (received made : Fund) (amount : Int) : Entry where
  kind := .inboundPaymentToOutboundPayment
  organization := made.organization
  partner := made.partner
  payable := made.reference
  payment := some received.reference
  currency := made.currency
  parts := Parts.ofPay amount
  payableOverUnder := made.projected amount
  paymentOverUnder := -received.projected (-amount)

/-- What a document takes of a debt: its share of what is left to pay, and all of the discount
and write-off. -/
def offer (debt : Debt) (source : Source) : Parts :=
  { debt.remaining with pay := source.share debt }

/-- Matches a debt with a document that acts as a payment, where both are open and fit. -/
def pairing? (book : Book) (kind : CandidateKind) (index : Nat) (means : Means) : Option Deal :=
  match book.debts[index]?, book.source? means with
  | some debt, some source =>
      if debt.IsOpen ∧ source.IsOpen ∧ source.Fits debt then
        some
          { entry := pairEntry kind debt source (offer debt source)
            after := (book.charge index (offer debt source)).draw means (source.share debt) }
      else
        none
  | _, _ => none

/-- Settles parts of a debt without a payment. -/
def concession? (book : Book) (index : Nat) (parts : Parts) : Option Deal :=
  book.debts[index]?.map fun debt =>
    { entry := concessionEntry debt parts, after := book.charge index parts }

/-- Settles the discount and write-off that a debt still carries. -/
def remainder? (book : Book) (index : Nat) : Option Deal :=
  match book.debts[index]? with
  | some debt =>
      if { debt.remaining with pay := 0 } = (0 : Parts) then
        none
      else
        book.concession? index { debt.remaining with pay := 0 }
  | none => none

/-- Deals with what is left to pay of a debt. -/
def leftover? (policy : LeftoverPolicy) (book : Book) (index : Nat) : Option Deal :=
  match book.debts[index]? with
  | some debt =>
      if debt.IsOpen ∧ policy ≠ .leaveOpen then
        (book.changeDebt index (·.move policy)).concession? index (debt.move policy).remaining
      else
        none
  | none => none

/-- What a payment received and a payment made have in common.  Both sides count below zero
here, so the smaller magnitude is the larger amount. -/
def offset (received made : Fund) : Int := max (-received.remaining) made.remaining

/-- Sets a payment received against a payment made. -/
def reversal? (book : Book) (inbound outbound : Nat) : Option Deal :=
  match book.funds[inbound]?, book.funds[outbound]? with
  | some received, some made =>
      if received.IsOpen ∧ made.IsOpen ∧ made.currency = received.currency then
        some
          { entry := reversalEntry received made (offset received made)
            after :=
              (book.changeFund outbound (·.draw (offset received made))).changeFund inbound
                (·.draw (-offset received made)) }
      else
        none
  | _, _ => none

end Book
end Settlement
