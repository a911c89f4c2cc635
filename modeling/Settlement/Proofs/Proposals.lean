import Settlement.Proofs.Exact.Documents
import Settlement.Proofs.Outcomes

/-!
# What a step proposes

Whatever a step proposes has come through all of its guards: the documents that it names are there
and fit each other, the candidate has been made from them, and recording it changes these documents
and no other.
-/

namespace Settlement

/-! ## Candidates -/

namespace Candidate.Draft

theorem required_eq_ok {α : Type} {part : Option α} {name : String} {value : α}
    (found : required part name = .ok value) : part = some value := by
  cases part with
  | none => cases found
  | some given =>
      cases found
      rfl

/-- A completed candidate has the parts of its draft. -/
theorem parts_of_complete {draft : Draft} {candidate : Candidate}
    (completed : draft.complete = .ok candidate) :
    draft.kind = candidate.kind ∧ draft.payable = some candidate.payable ∧
      draft.payment = candidate.payment ∧ draft.amounts = some candidate.amounts := by
  obtain ⟨organization, -, completed⟩ := bind_eq_ok.mp completed
  obtain ⟨payable, payable_eq, completed⟩ := bind_eq_ok.mp completed
  obtain ⟨amounts, amounts_eq, completed⟩ := bind_eq_ok.mp completed
  obtain ⟨-, -, completed⟩ := bind_eq_ok.mp completed
  obtain ⟨payableOverUnder, -, completed⟩ := bind_eq_ok.mp completed
  obtain ⟨paymentOverUnder, -, completed⟩ := bind_eq_ok.mp completed
  cases completed
  exact ⟨rfl, required_eq_ok payable_eq, rfl, required_eq_ok amounts_eq⟩

end Candidate.Draft

/-! ## Proposals -/

namespace Proposal

/-- A proposal matches a payable with a document that fits it, for what the document can take. -/
structure Pairs (documents : Documents) (kind : CandidateKind) (index : Nat) (means : Means)
    (payable : Payable) (view : PaymentView) (proposal : Proposal) : Prop where
  payable_eq : documents.payable index = .ok payable
  view_eq : documents.view means = .ok view
  fits : view.fits payable = true
  shared : view.share payable = .ok proposal.candidate.amounts
  kind_eq : proposal.candidate.kind = kind
  settles : proposal.candidate.payable = payable.reference
  paid_with : proposal.candidate.payment = some view.reference
  record_eq : proposal.record = fun documents =>
    (documents.allocate index proposal.candidate.amounts).andThen fun documents =>
      documents.pay means proposal.candidate.amounts.pay

/-- A proposal settles amounts of a payable without a payment. -/
structure Concedes (documents : Documents) (index : Nat) (amounts : Amounts) (payable : Payable)
    (proposal : Proposal) : Prop where
  payable_eq : documents.payable index = .ok payable
  kind_eq : proposal.candidate.kind = .invoiceDiscountOrWriteOff
  settles : proposal.candidate.payable = payable.reference
  unpaid : proposal.candidate.payment = none
  amounts_eq : proposal.candidate.amounts = amounts
  record_eq : proposal.record = fun documents => documents.allocate index amounts

/-- A proposal sets a payment received against a payment made, for the smaller magnitude. -/
structure Reverses (documents : Documents) (inbound outbound : Nat) (received made : Payment)
    (proposal : Proposal) : Prop where
  received_eq : documents.payment inbound = .ok received
  made_eq : documents.payment outbound = .ok made
  currency_eq : made.currency = received.currency
  larger : received.remaining.neg.max made.remaining = .ok proposal.candidate.amounts.pay
  kind_eq : proposal.candidate.kind = .inboundPaymentToOutboundPayment
  settles : proposal.candidate.payable = made.reference
  paid_with : proposal.candidate.payment = some received.reference
  record_eq : proposal.record = fun documents =>
    (documents.changePayment outbound fun payment =>
        payment.allocate proposal.candidate.amounts.pay).andThen fun documents =>
      documents.changePayment inbound fun payment =>
        payment.allocate proposal.candidate.amounts.pay.neg

end Proposal

namespace Documents

variable {documents : Documents} {proposal : Proposal}

theorem pairing_eq_some {kind : CandidateKind} {index : Nat} {means : Means}
    (proposed : documents.pairing kind index means = .ok (some proposal)) :
    ∃ payable view, proposal.Pairs documents kind index means payable view := by
  obtain ⟨payable, payable_eq, proposed⟩ := bind_eq_ok.mp proposed
  split at proposed
  · cases proposed
  obtain ⟨view, view_eq, proposed⟩ := bind_eq_ok.mp proposed
  split at proposed
  · cases proposed
  rename_i usable
  obtain ⟨amounts, shared, proposed⟩ := bind_eq_ok.mp proposed
  obtain ⟨payableOverUnder, -, proposed⟩ := bind_eq_ok.mp proposed
  obtain ⟨paymentOverUnder, -, proposed⟩ := bind_eq_ok.mp proposed
  obtain ⟨candidate, completed, proposed⟩ := bind_eq_ok.mp proposed
  obtain ⟨kind_eq, settles, paid_with, amounts_eq⟩ :=
    Candidate.Draft.parts_of_complete (orRefused_eq_ok.mp completed)
  obtain rfl := Option.some.inj amounts_eq
  cases proposed
  simp only [Bool.or_eq_true, Bool.not_eq_true', not_or, Bool.not_eq_true, Bool.not_eq_false]
    at usable
  exact ⟨payable, view,
    { payable_eq := orBroken_eq_ok.mp payable_eq
      view_eq := orBroken_eq_ok.mp view_eq
      fits := usable.2
      shared := orBroken_eq_ok.mp shared
      kind_eq := kind_eq.symm
      settles := (Option.some.inj settles).symm
      paid_with := paid_with.symm
      record_eq := rfl }⟩

theorem concession_eq_ok {index : Nat} {amounts : Amounts}
    (conceded : documents.concession index amounts = .ok proposal) :
    ∃ payable, proposal.Concedes documents index amounts payable := by
  obtain ⟨payable, payable_eq, conceded⟩ := bind_eq_ok.mp conceded
  obtain ⟨payableOverUnder, -, conceded⟩ := bind_eq_ok.mp conceded
  obtain ⟨candidate, completed, conceded⟩ := bind_eq_ok.mp conceded
  obtain ⟨kind_eq, settles, unpaid, amounts_eq⟩ :=
    Candidate.Draft.parts_of_complete (orRefused_eq_ok.mp completed)
  cases conceded
  exact ⟨payable,
    { payable_eq := orBroken_eq_ok.mp payable_eq
      kind_eq := kind_eq.symm
      settles := (Option.some.inj settles).symm
      unpaid := unpaid.symm
      amounts_eq := (Option.some.inj amounts_eq).symm
      record_eq := rfl }⟩

theorem remainder_eq_some {index : Nat}
    (proposed : documents.remainder index = .ok (some proposal)) :
    ∃ payable, proposal.Concedes documents index payable.remaining.withZeroPay payable := by
  obtain ⟨payable, payable_eq, proposed⟩ := bind_eq_ok.mp proposed
  dsimp only at proposed
  split at proposed
  · cases proposed
  obtain ⟨conceded, conceded_eq, proposed⟩ := bind_eq_ok.mp proposed
  cases proposed
  obtain ⟨found, concedes⟩ := concession_eq_ok conceded_eq
  have same := concedes.payable_eq.symm.trans (orBroken_eq_ok.mp payable_eq)
  obtain rfl := Except.ok.inj same
  exact ⟨found, concedes⟩

theorem reversal_eq_some {inbound outbound : Nat}
    (proposed : documents.reversal inbound outbound = .ok (some proposal)) :
    ∃ received made, proposal.Reverses documents inbound outbound received made := by
  obtain ⟨received, received_eq, proposed⟩ := bind_eq_ok.mp proposed
  obtain ⟨made, made_eq, proposed⟩ := bind_eq_ok.mp proposed
  split at proposed
  · cases proposed
  split at proposed
  · cases proposed
  rename_i usable
  obtain ⟨amount, larger, proposed⟩ := bind_eq_ok.mp proposed
  obtain ⟨payableOverUnder, -, proposed⟩ := bind_eq_ok.mp proposed
  obtain ⟨paymentOverUnder, -, proposed⟩ := bind_eq_ok.mp proposed
  obtain ⟨candidate, completed, proposed⟩ := bind_eq_ok.mp proposed
  obtain ⟨kind_eq, settles, paid_with, amounts_eq⟩ :=
    Candidate.Draft.parts_of_complete (orRefused_eq_ok.mp completed)
  obtain rfl : amount = candidate.amounts.pay :=
    congrArg Amounts.pay (Option.some.inj amounts_eq)
  cases proposed
  simp only [Bool.or_eq_true, bne_iff_ne, not_or, not_not] at usable
  exact ⟨received, made,
    { received_eq := orBroken_eq_ok.mp received_eq
      made_eq := orBroken_eq_ok.mp made_eq
      currency_eq := usable.2
      larger := orBroken_eq_ok.mp larger
      kind_eq := kind_eq.symm
      settles := (Option.some.inj settles).symm
      paid_with := paid_with.symm
      record_eq := rfl }⟩

end Documents
end Settlement
