import Mathlib.Data.List.Forall2
import Settlement.Proofs.Store.Managers

/-!
# Booking headers on a ledger in memory

Booking on a ledger in memory fails only where the ledger refuses to book at all: the lines of a
header that has just been booked can always be linked.  A unit of work that books headers and
stands has therefore added every header with a line, in order, and nothing else.
-/

namespace Settlement

namespace Ledger

/-- Links the lines of a header to each other where there are two. -/
def linkLines (ledger : Ledger) : List AllocationLineId → Ledger
  | [first, second] =>
      { ledger with counters := (second, first) :: (first, second) :: ledger.counters }
  | _ => ledger

@[simp]
theorem entries_linkLines (ledger : Ledger) (lines : List AllocationLineId) :
    (ledger.linkLines lines).entries = ledger.entries := by
  unfold linkLines
  split <;> rfl

theorem linkLines_of_ne (ledger : Ledger) {lines : List AllocationLineId}
    (no_pair : ∀ first second, lines = [first, second] → False) :
    ledger.linkLines lines = ledger := by
  unfold linkLines
  split
  · exact (no_pair _ _ rfl).elim
  · rfl

theorem setCounter_of_mem {ledger : Ledger} {line : AllocationLineId}
    (mem : line ∈ ledger.lineIds) (counter : AllocationLineId) :
    ledger.setCounter line counter =
      .ok { ledger with counters := (line, counter) :: ledger.counters } :=
  if_pos mem

theorem lineIds_book (ledger : Ledger) (header : Header) (completed : CompletedAllocation) :
    (ledger.book header completed).lineIds = ledger.lineIds ++ completed.lines := by
  simp [lineIds, book]

end Ledger

namespace OpenLedger

/-- What is stored for a header that is booked next. -/
def nextEntry (store : OpenLedger) (header : Header) : StoredAllocation :=
  let completed := (store.supply.drawAllocation header.lines.length).1
  ⟨completed.allocation, header, completed.lines⟩

/-- Books a header with lines and links them. -/
def enter (store : OpenLedger) (header : Header) : OpenLedger :=
  let (completed, supply) := store.supply.drawAllocation header.lines.length
  ⟨(store.ledger.book header completed).linkLines completed.lines, supply⟩

theorem entries_enter (store : OpenLedger) (header : Header) :
    (store.enter header).ledger.entries = store.ledger.entries ++ [store.nextEntry header] :=
  Ledger.entries_linkLines _ _

end OpenLedger

namespace Work

variable {ν : Type} {store : OpenLedger}

theorem run_link {α : Type} {line counter : AllocationLineId}
    {next : Except StoreError Unit → Work α} (mem : line ∈ store.ledger.lineIds) :
    (link line counter next).run store =
      (next (.ok ())).run
        ⟨{ store.ledger with counters := (line, counter) :: store.ledger.counters },
          store.supply⟩ := by
  rw [run]
  simp only [AllocationStore.link, OpenLedger.link, Ledger.setCounter_of_mem mem]

/-- Lines that are booked are linked both ways. -/
theorem run_linkBoth {note : ν} {first second : AllocationLineId} {next : UnitOfWork ν}
    (first_mem : first ∈ store.ledger.lineIds) (second_mem : second ∈ store.ledger.lineIds) :
    (linkBoth note first second next).run store =
      next.run ⟨store.ledger.linkLines [first, second], store.supply⟩ := by
  rw [linkBoth, run_link first_mem]
  exact run_link second_mem

/-- The next header is booked with its lines linked, passed over where it has none, or refused
by the ledger. -/
theorem run_bookAll_cons (noted : List AllocationId) (header : Header) (rest : List Header)
    (store : OpenLedger) :
    (bookAll noted (header :: rest)).run store =
      match store.ledger.refusal? with
      | some error => ((noted, .error (.persistence error)), store)
      | none =>
          if header.isEmpty then
            (bookAll noted rest).run store
          else
            (bookAll (noted ++ [(store.nextEntry header).id]) rest).run (store.enter header) := by
  rw [bookAll, run]
  simp only [AllocationStore.create, OpenLedger.create]
  cases refusal : store.ledger.refusal? with
  | some error => rfl
  | none =>
      cases empty : header.isEmpty with
      | true => rfl
      | false =>
          simp only [Bool.false_eq_true, if_false]
          split
          · rename_i first second lines_eq
            have booked := store.ledger.lineIds_book header
              (store.supply.drawAllocation header.lines.length).1
            rw [lines_eq] at booked
            rw [run_linkBoth (by simp [booked]) (by simp [booked]), OpenLedger.enter]
            simp only [lines_eq]
            rfl
          · rename_i no_pair
            rw [OpenLedger.enter]
            simp only [Ledger.linkLines_of_ne _ no_pair]
            rfl

/-- A unit that books headers and stands has added those with lines, in order. -/
theorem bookAll_ok {noted ids : List AllocationId} {headers : List Header} {after : OpenLedger}
    (stands : (bookAll noted headers).run store = ((ids, .ok ()), after)) :
    ∃ added : List StoredAllocation,
      after.ledger.entries = store.ledger.entries ++ added ∧
        added.map StoredAllocation.header = headers.filter (fun header => !header.isEmpty) ∧
        ids = noted ++ added.map StoredAllocation.id := by
  induction headers generalizing noted store with
  | nil =>
      cases stands
      exact ⟨[], by simp⟩
  | cons header rest ih =>
      rw [run_bookAll_cons] at stands
      cases refusal : store.ledger.refusal? with
      | some error =>
          rw [refusal] at stands
          cases stands
      | none =>
          rw [refusal] at stands
          cases empty : header.isEmpty with
          | true =>
              obtain ⟨added, entries_eq, headers_eq, ids_eq⟩ := ih (by simpa [empty] using stands)
              exact ⟨added, entries_eq, by simp [empty, headers_eq], ids_eq⟩
          | false =>
              obtain ⟨added, entries_eq, headers_eq, ids_eq⟩ := ih (by simpa [empty] using stands)
              refine ⟨store.nextEntry header :: added, ?_, ?_, ?_⟩
              · rw [entries_eq, OpenLedger.entries_enter, List.append_assoc]
                rfl
              · rw [List.map_cons, headers_eq, List.filter_cons_of_pos (by simp [empty])]
                rfl
              · rw [ids_eq, List.append_assoc]
                rfl

end Work

namespace MemoryManager

/-- One unit of work stands that has booked headers: those with lines are added to the ledger in
order, under identifiers that are given back in that order. -/
structure Committed (before : MemoryManager) (headers : List Header) (after : MemoryManager)
    (allocations : List AllocationId) : Prop where
  booked : ∃ added : List StoredAllocation,
    after.ledger.entries = before.ledger.entries ++ added ∧
      added.map StoredAllocation.header = headers.filter (fun header => !header.isEmpty) ∧
      allocations = added.map StoredAllocation.id
  commits : after.commits = before.commits + 1
  rollbacks : after.rollbacks = before.rollbacks

/-- One unit of work has left no trace in the ledger. -/
structure RolledBack (before after : MemoryManager) : Prop where
  ledger : after.ledger = before.ledger
  commits : after.commits = before.commits
  rollbacks : after.rollbacks = before.rollbacks + 1

end MemoryManager

/-- Headers are booked together in a unit of work that stands, or the store fails and the unit
leaves no trace. -/
theorem Run.bookHeaders_cases (headers : List Header) (manager : MemoryManager) :
    (∃ allocations closed, bookHeaders headers manager = (.ok allocations, closed) ∧
        manager.Committed headers closed allocations) ∨
      ∃ cause closed, bookHeaders headers manager = (.error (.persistence cause), closed) ∧
        manager.RolledBack closed := by
  simp only [bookHeaders, TransactionManager.runAtomically, MemoryManager.runAtomically]
  rcases worked : (Work.bookAll [] headers).run (OpenLedger.mk manager.ledger manager.supply) with
    ⟨⟨noted, error | stands⟩, after⟩
  · have failed := congrArg (fun outcome => outcome.1.2) worked
    obtain ⟨cause, rfl⟩ := Work.failsOnly_bookAll [] headers _ error failed
    exact .inr ⟨cause, _, rfl, rfl, rfl, rfl⟩
  · have booked := Work.bookAll_ok worked
    simp only [List.nil_append] at booked
    exact .inl ⟨noted, _, rfl, booked, rfl, rfl⟩

/-- Headers that a manager in memory has booked are added to its ledger. -/
theorem Run.bookHeaders_ok {headers : List Header} {manager closed : MemoryManager}
    {allocations : List AllocationId}
    (booked : bookHeaders headers manager = (.ok allocations, closed)) :
    manager.Committed headers closed allocations := by
  obtain ⟨ids, after, booked_eq, committed⟩ | ⟨cause, after, booked_eq, -⟩ :=
    bookHeaders_cases headers manager
  · obtain ⟨ids_eq, rfl⟩ := Prod.mk.inj (booked.symm.trans booked_eq)
    exact Except.ok.inj ids_eq ▸ committed
  · cases booked.symm.trans booked_eq

end Settlement
