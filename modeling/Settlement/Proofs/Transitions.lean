import Settlement.Proofs.Balances
import Settlement.Proofs.Exact.Concessions
import Settlement.Proofs.Exact.Matches

/-!
# Transitions of a build

A transition is a posting together with the documents that it was made from.  The transitions of a
build of fresh documents are read as the moves of its trail, so what every move does every
transition does: it matches two documents, or it concedes something of a payable.
-/

namespace Settlement

/-- A posting and the documents that it was made from. -/
structure Transition where
  before : Documents
  posting : Posting
  deriving DecidableEq, Repr

namespace Transition

/-- The candidate that was posted. -/
def candidate (transition : Transition) : Candidate := transition.posting.candidate

/-- The documents that the posting has left. -/
def after (transition : Transition) : Documents := transition.posting.documents

/-- The transition in ticks. -/
def move (transition : Transition) : Move :=
  ⟨transition.before.book, transition.posting.deal⟩

/-- All amounts before, in and after the posting are exact. -/
structure Exact (transition : Transition) : Prop where
  before : transition.before.Exact
  posting : transition.posting.Exact

end Transition

namespace Posting

/-- Postings in a row, each with the documents that it was made from. -/
def transitions : Documents → List Posting → List Transition
  | _, [] => []
  | before, posting :: rest => ⟨before, posting⟩ :: transitions posting.documents rest

theorem map_posting_transitions (before : Documents) (postings : List Posting) :
    (transitions before postings).map Transition.posting = postings := by
  induction postings generalizing before with
  | nil => rfl
  | cons posting rest ih => rw [transitions, List.map_cons, ih]

theorem map_move_transitions (before : Documents) (postings : List Posting) :
    (transitions before postings).map Transition.move =
      Deal.moves before.book (postings.map deal) := by
  induction postings generalizing before with
  | nil => rfl
  | cons posting rest ih =>
      rw [transitions, List.map_cons, ih]
      rfl

theorem transitions_exact {before : Documents} {postings : List Posting} (exact : before.Exact)
    (postings_exact : ∀ posting ∈ postings, posting.Exact) :
    ∀ transition ∈ transitions before postings, transition.Exact := by
  induction postings generalizing before with
  | nil => simp [transitions]
  | cons posting rest ih =>
      have here := postings_exact posting (by simp)
      intro transition mem
      rcases List.mem_cons.mp mem with rfl | later
      · exact ⟨exact, here⟩
      · exact ih here.documents (fun other other_mem => postings_exact other (by simp [other_mem]))
          transition later

end Posting

/-- The transitions of a build, from the documents that it was given. -/
def Build.transitions {τ : Type} (build : Build τ) (start : Documents) : List Transition :=
  Posting.transitions start build.postings

/-! ## Balances -/

/-- The balance in ticks. -/
def Balance.ticks (balance : Balance Money) : Balance Int :=
  ⟨balance.reference, balance.initial.ticks, balance.remaining.ticks⟩

/-- The balance of a payable is that of its pay amount. -/
def Balance.ofPayable (payable : Payable) : Balance Money :=
  ⟨payable.reference, payable.initial.pay, payable.remaining.pay⟩

/-- The balance of a payment. -/
def Balance.ofPayment (payment : Payment) : Balance Money :=
  ⟨payment.reference, payment.initial, payment.remaining⟩

namespace Documents

/-- The balances of all documents. -/
def balances (documents : Documents) : List (Balance Money) :=
  documents.payables.map Balance.ofPayable ++ documents.payments.map Balance.ofPayment

theorem balances_book (documents : Documents) :
    documents.book.balances = documents.balances.map Balance.ticks := by
  rw [Book.balances, book, List.map_map, List.map_map, balances, List.map_append, List.map_map,
    List.map_map]
  rfl

theorem Exact.of_mem_balances {documents : Documents} (exact : documents.Exact)
    {balance : Balance Money} (mem : balance ∈ documents.balances) :
    ∃ currency, balance.initial.Exact currency ∧ balance.remaining.Exact currency := by
  rcases List.mem_append.mp mem with payable_mem | payment_mem
  · obtain ⟨payable, found_mem, rfl⟩ := List.mem_map.mp payable_mem
    have found := exact.payables payable found_mem
    exact ⟨_, found.initial.pay, found.remaining.pay⟩
  · obtain ⟨payment, found_mem, rfl⟩ := List.mem_map.mp payment_mem
    have found := exact.payments payment found_mem
    exact ⟨_, found.initial, found.remaining⟩

end Documents

/-! ## What a transition does -/

namespace Transition

/-- A transition matches two documents: it settles something of the one, with the sign that the
document started with and as much as both have left, and leaves nothing of one of them. -/
structure Matches (transition : Transition) (paid paying : Balance Money) : Prop where
  paid_mem : paid ∈ transition.before.balances
  paying_mem : paying ∈ transition.before.balances
  payable_eq : transition.candidate.payable = paid.reference
  payment_eq : transition.candidate.payment = some paying.reference
  pay_ne : transition.candidate.amounts.pay.amount.value ≠ 0
  sign_eq : SignType.sign transition.candidate.amounts.pay.amount.value =
    SignType.sign paid.initial.amount.value
  abs_eq : |transition.candidate.amounts.pay.amount.value| =
    min |paid.remaining.amount.value| |paying.remaining.amount.value|
  closes : ∃ closed ∈ transition.after.balances, closed.remaining.isZero = true ∧
    (closed.reference = paid.reference ∨ closed.reference = paying.reference)

/-- A transition concedes something of the payable at a place: it settles it without a payment and
changes what is left of it. -/
structure Concedes (transition : Transition) (place : Nat) : Prop where
  kind_eq : transition.candidate.kind = .invoiceDiscountOrWriteOff
  changes : ∃ payable changed, transition.before.payables[place]? = some payable ∧
    transition.after.payables[place]? = some changed ∧
    payable.reference = transition.candidate.payable ∧
    ¬changed.remaining.SameValue payable.remaining

variable {transition : Transition}

/-- A transition whose move matches two documents matches them. -/
theorem Exact.matches (exact : transition.Exact) {paid paying : Balance Int}
    (matched : transition.move.Matches paid paying) :
    ∃ paid paying, transition.Matches paid paying := by
  obtain ⟨paid_mem, paying_mem, payable_eq, payment_eq, pay_ne, sign_eq, natAbs_eq, closed,
    closed_mem, nothing, which⟩ := matched
  have before_eq : transition.move.before.balances =
      transition.before.balances.map Balance.ticks := transition.before.balances_book
  have after_eq : transition.move.deal.after.balances =
      transition.after.balances.map Balance.ticks := transition.after.balances_book
  rw [before_eq] at paid_mem paying_mem
  rw [after_eq] at closed_mem
  obtain ⟨paid, paid_found, rfl⟩ := List.mem_map.mp paid_mem
  obtain ⟨paying, paying_found, rfl⟩ := List.mem_map.mp paying_mem
  obtain ⟨closed, closed_found, rfl⟩ := List.mem_map.mp closed_mem
  have pay_exact : transition.candidate.amounts.pay.Exact transition.candidate.currency :=
    exact.posting.candidate.amounts.pay
  obtain ⟨_, initial_exact, remaining_exact⟩ := exact.before.of_mem_balances paid_found
  obtain ⟨_, -, paying_exact⟩ := exact.before.of_mem_balances paying_found
  have pay_ticks : transition.move.deal.entry.parts.pay =
      transition.candidate.amounts.pay.ticks := rfl
  rw [pay_ticks] at pay_ne sign_eq natAbs_eq
  refine ⟨paid, paying, paid_found, paying_found, payable_eq, payment_eq, ?_, ?_, ?_, closed,
    closed_found, (Money.isZero_iff _).mpr nothing, which⟩
  · exact fun nothing_paid => pay_ne (Money.value_eq_zero_iff.mp nothing_paid)
  · have cast_injective : Function.Injective (SignType.cast : SignType → Int) := by decide
    apply cast_injective
    rw [pay_exact.sign_value, initial_exact.sign_value]
    exact sign_eq
  · have places_pos : (0 : Rat) ≤ 10 ^ 4 := by norm_num
    rw [Decimal.abs_value pay_exact.grid, Decimal.abs_value remaining_exact.grid,
      Decimal.abs_value paying_exact.grid, min_div_div_right places_pos]
    exact congrArg (fun magnitude : Rat => magnitude / 10 ^ 4) (by exact_mod_cast natAbs_eq)

/-- A transition concedes something of a payable when its move does of the debt. -/
theorem Exact.concedes_iff (exact : transition.Exact) {policy : LeftoverPolicy}
    (later : Book.Later policy transition.before.book transition.after.book) {place : Nat} :
    transition.Concedes place ↔ transition.move.Concedes place := by
  have same_iff : ∀ payable changed, transition.before.payables[place]? = some payable →
      transition.after.payables[place]? = some changed →
        (changed.remaining.SameValue payable.remaining ↔
          changed.debt.remaining = payable.debt.remaining) := by
    intro payable changed payable_eq changed_eq
    have step := forall₂_at later.debts (Documents.debt_of_payable payable_eq)
      (Documents.debt_of_payable changed_eq)
    have currency_eq : changed.currency = payable.currency :=
      congrArg Debt.Terms.currency step.terms_eq
    have changed_exact := (exact.posting.documents.payable_exact changed_eq).remaining
    rw [currency_eq] at changed_exact
    exact changed_exact.sameValue_iff (exact.before.payable_exact payable_eq).remaining
  constructor
  · rintro ⟨kind_eq, payable, changed, payable_eq, changed_eq, reference_eq, differs⟩
    rw [same_iff payable changed payable_eq changed_eq] at differs
    exact ⟨kind_eq, payable.debt, changed.debt, Documents.debt_of_payable payable_eq,
      Documents.debt_of_payable changed_eq, reference_eq, differs⟩
  · rintro ⟨kind_eq, debt, found, debt_eq, found_eq, reference_eq, differs⟩
    obtain ⟨payable, payable_eq, rfl⟩ := Documents.debt_eq_some_iff.mp debt_eq
    obtain ⟨changed, changed_eq, rfl⟩ := Documents.debt_eq_some_iff.mp found_eq
    refine ⟨kind_eq, payable, changed, payable_eq, changed_eq, reference_eq, ?_⟩
    rwa [same_iff payable changed payable_eq changed_eq]

end Transition

/-! ## Builds -/

namespace Run

variable {τ : Type} [TransactionManager τ] {run : Run}

theorem transitions_build (run : Run) (manager : Option τ) :
    (run.build manager).transitions run.documents =
      Posting.transitions run.documents run.progress.postings := by
  rw [Build.transitions, postings_build]

/-- The transitions of a build are read as the moves of its trail. -/
theorem move_transitions (run : Run) (manager : Option τ) :
    ((run.build manager).transitions run.documents).map Transition.move =
      run.progress.history.moves run.documents.book := by
  rw [transitions_build, Posting.map_move_transitions, History.moves, Progress.history]

theorem candidates_transitions (run : Run) (manager : Option τ) :
    ((run.build manager).transitions run.documents).map Transition.candidate =
      (run.build manager).postings.map Posting.candidate := by
  rw [← Posting.map_posting_transitions run.documents (run.build manager).postings, List.map_map]
  rfl

theorem progress_concededOnce (fresh : run.documents.Fresh) :
    run.progress.history.ConcededOnce Book.ExtrasGone run.documents.book := by
  cases built : run.built with
  | true =>
      rw [progress_of_built built]
      exact .nil _ _
  | false =>
      rw [progress_of_unbuilt built,
        (Documents.settle_follows fresh.exact (fresh.sound _)).history_eq]
      exact Book.settle_concededOnce (fresh.sound _)

variable (manager : Option τ) (fresh : run.documents.Fresh)

include fresh

theorem transitions_exact :
    ∀ transition ∈ (run.build manager).transitions run.documents, transition.Exact := by
  rw [transitions_build]
  exact Posting.transitions_exact fresh.exact (progress_exact fresh).postings

theorem transitions_made :
    ∀ transition ∈ (run.build manager).transitions run.documents,
      transition.move.Made run.settings.leftover run.documents.book := by
  intro transition mem
  have moved := List.mem_map_of_mem (f := Transition.move) mem
  rw [move_transitions] at moved
  exact (progress_trail fresh).moves_made (fresh.sound _) transition.move moved

/-- A transition of a build concedes what its move does. -/
theorem concedes_iff_move {transition : Transition}
    (mem : transition ∈ (run.build manager).transitions run.documents) (place : Nat) :
    transition.Concedes place ↔ transition.move.Concedes place :=
  (transitions_exact manager fresh transition mem).concedes_iff
    (transitions_made manager fresh transition mem).leaves

/-- A build concedes to no payable twice. -/
theorem transitions_concede_once :
    ((run.build manager).transitions run.documents).Pairwise fun first second =>
      ∀ place, first.Concedes place → ¬second.Concedes place := by
  have moves_once := (progress_concededOnce fresh).once
  rw [← move_transitions run manager, List.pairwise_map] at moves_once
  refine moves_once.imp_of_mem fun first_mem second_mem apart place concedes again => ?_
  exact apart place ((concedes_iff_move manager fresh first_mem place).mp concedes)
    ((concedes_iff_move manager fresh second_mem place).mp again)

end Run
end Settlement
