import Settlement.Proofs.Store.Bookings
import Settlement.Samples

/-!
# Units of work, one after the other

A unit that does not stand leaves the ledger of a manager in memory as it was, though it has used up
identifiers.  The ledger after any units is therefore the one that those units make which stand,
where each of them draws the identifiers that it drew before.  Whatever units are run on a ledger
that holds nothing, every header that it comes to hold has lines, each under an identifier of its
own place, and only lines that are booked have counter lines.

Units are trees of requests that go on by the answers: requests made one after the other up to the
first error are a special case.
-/

namespace Settlement

/-! ## Histories -/

/-- A unit of work as it went: what it drew identifiers from, what it asked for and whether it
stands. -/
structure UnitRun (ν : Type) where
  /-- The supply of identifiers when the unit began. -/
  supply : IdSupply
  /-- The unit. -/
  work : UnitOfWork ν
  /-- What the manager answered. -/
  result : Except AllocationError Unit

/-- The unit stands. -/
def UnitRun.stands {ν : Type} (unit : UnitRun ν) : Bool := unit.result.isOk

namespace MemoryManager

variable {ν : Type}

/-- The manager after units of work, one after the other. -/
def runEach : List (UnitOfWork ν) → MemoryManager → MemoryManager
  | [], manager => manager
  | work :: rest, manager => runEach rest (runAtomically work manager).2

/-- How units of work go, one after the other. -/
def history : List (UnitOfWork ν) → MemoryManager → List (UnitRun ν)
  | [], _ => []
  | work :: rest, manager =>
      ⟨manager.supply, work, (runAtomically work manager).1.result⟩ ::
        history rest (runAtomically work manager).2

/-- The manager after the units of a history are run again, each with the supply that it had. -/
def replay : List (UnitRun ν) → MemoryManager → MemoryManager
  | [], manager => manager
  | unit :: rest, manager =>
      replay rest (runAtomically unit.work { manager with supply := unit.supply }).2

/-- Units of work come to the same as those of them that stand. -/
structure EqualsStanding (units : List (UnitOfWork ν)) (manager : MemoryManager) : Prop where
  ledger : (runEach units manager).ledger =
    (replay ((history units manager).filter UnitRun.stands) manager).ledger
  commits : (runEach units manager).commits =
    manager.commits + (history units manager).countP UnitRun.stands
  rollbacks : (runEach units manager).rollbacks =
    manager.rollbacks + (history units manager).countP (!·.stands)
  /-- The units that stand do so again, all of them. -/
  replayed : (replay ((history units manager).filter UnitRun.stands) manager).commits =
      manager.commits + (history units manager).countP UnitRun.stands ∧
    (replay ((history units manager).filter UnitRun.stands) manager).rollbacks = manager.rollbacks

/-! ## One unit -/

/-- A unit stands and what it has done is kept and counted, or it has left the ledger alone and is
counted as that. -/
theorem runAtomically_cases (work : UnitOfWork ν) (manager : MemoryManager) :
    ((runAtomically work manager).1.result = .ok () ∧
        (runAtomically work manager).2.ledger =
          (work.run (OpenLedger.mk manager.ledger manager.supply)).2.ledger ∧
        (runAtomically work manager).2.commits = manager.commits + 1 ∧
        (runAtomically work manager).2.rollbacks = manager.rollbacks) ∨
      ∃ error, (runAtomically work manager).1.result = .error error ∧
        (runAtomically work manager).2.ledger = manager.ledger ∧
        (runAtomically work manager).2.commits = manager.commits ∧
        (runAtomically work manager).2.rollbacks = manager.rollbacks + 1 := by
  unfold runAtomically
  rcases work.run (OpenLedger.mk manager.ledger manager.supply) with
    ⟨⟨note, error | stands⟩, after⟩
  · exact .inr ⟨error, rfl, rfl, rfl, rfl⟩
  · exact .inl ⟨rfl, rfl, rfl, rfl⟩

/-- How a unit goes and what it does to the ledger hangs on the ledger and the supply alone. -/
theorem runAtomically_alike (work : UnitOfWork ν) {manager other : MemoryManager}
    (ledger_eq : other.ledger = manager.ledger) (supply_eq : other.supply = manager.supply) :
    (runAtomically work other).1 = (runAtomically work manager).1 ∧
      (runAtomically work other).2.ledger = (runAtomically work manager).2.ledger := by
  unfold runAtomically
  rw [ledger_eq, supply_eq]
  rcases work.run (OpenLedger.mk manager.ledger manager.supply) with
    ⟨⟨note, error | stands⟩, after⟩
  · exact ⟨rfl, ledger_eq⟩
  · exact ⟨rfl, rfl⟩

/-! ## What stands -/

/-- The counts of a manager are those of the units that it has run. -/
theorem counts_runEach (units : List (UnitOfWork ν)) (manager : MemoryManager) :
    (runEach units manager).commits =
        manager.commits + (history units manager).countP UnitRun.stands ∧
      (runEach units manager).rollbacks =
        manager.rollbacks + (history units manager).countP (!·.stands) := by
  induction units generalizing manager with
  | nil => exact ⟨rfl, rfl⟩
  | cons work rest ih =>
      obtain ⟨commits_rest, rollbacks_rest⟩ := ih (runAtomically work manager).2
      rw [runEach, history, commits_rest, rollbacks_rest, List.countP_cons, List.countP_cons]
      rcases runAtomically_cases work manager with
        ⟨result_eq, -, commits_eq, rollbacks_eq⟩ | ⟨error, result_eq, -, commits_eq, rollbacks_eq⟩
      · simp only [UnitRun.stands, result_eq, commits_eq, rollbacks_eq, Except.isOk, Except.toBool]
        constructor
        · simp only [if_true]
          omega
        · simp
      · simp only [UnitRun.stands, result_eq, commits_eq, rollbacks_eq, Except.isOk, Except.toBool]
        constructor
        · simp
        · simp only [Bool.not_false, if_true]
          omega

/-- Units that stand, run again on the same ledger, stand again and make the same ledger. -/
theorem replay_standing (units : List (UnitOfWork ν)) {manager other : MemoryManager}
    (ledger_eq : other.ledger = manager.ledger) :
    (replay ((history units manager).filter UnitRun.stands) other).ledger =
        (runEach units manager).ledger ∧
      (replay ((history units manager).filter UnitRun.stands) other).commits =
        other.commits + (history units manager).countP UnitRun.stands ∧
      (replay ((history units manager).filter UnitRun.stands) other).rollbacks =
        other.rollbacks := by
  induction units generalizing manager other with
  | nil => exact ⟨ledger_eq, rfl, rfl⟩
  | cons work rest ih =>
      rw [runEach, history]
      rcases runAtomically_cases work manager with
        ⟨result_eq, -, -, -⟩ | ⟨error, result_eq, ledger_after, -, -⟩
      · -- The unit stands, so it is replayed and answered as before.
        set again : MemoryManager := { other with supply := manager.supply } with again_eq
        obtain ⟨outcome_eq, ledger_again⟩ :
            (runAtomically work again).1 = (runAtomically work manager).1 ∧
              (runAtomically work again).2.ledger = (runAtomically work manager).2.ledger :=
          runAtomically_alike work ledger_eq rfl
        have result_again : (runAtomically work again).1.result = .ok () := by
          rw [outcome_eq, result_eq]
        rcases runAtomically_cases work again with
          ⟨-, -, commits_again, rollbacks_again⟩ | ⟨error, refused, -⟩
        · obtain ⟨ledger_rest, commits_rest, rollbacks_rest⟩ := ih ledger_again
          rw [List.filter_cons_of_pos (by rw [UnitRun.stands, result_eq]; rfl),
            List.countP_cons_of_pos (by rw [UnitRun.stands, result_eq]; rfl), replay]
          refine ⟨ledger_rest, ?_, rollbacks_rest.trans rollbacks_again⟩
          rw [commits_rest, commits_again]
          show other.commits + 1 + _ = _
          omega
        · cases result_again.symm.trans refused
      · -- The unit leaves the ledger alone, so the others are run on the ledger before it.
        rw [List.filter_cons_of_neg (by rw [UnitRun.stands, result_eq]; nofun),
          List.countP_cons_of_neg (by rw [UnitRun.stands, result_eq]; nofun)]
        exact ih (ledger_eq.trans ledger_after.symm)

end MemoryManager

/-! ## Ledgers that hang together -/

namespace Ledger

/-- Every header has lines and an identifier for each of them, and only booked lines have a counter
line. -/
structure Coherent (ledger : Ledger) : Prop where
  some_line : ∀ entry ∈ ledger.entries, 1 ≤ entry.lines.length
  lengths : ∀ entry ∈ ledger.entries, entry.lines.length = entry.header.lines.length
  keys : ∀ link ∈ ledger.counters, link.1 ∈ ledger.lineIds

theorem coherent_blank (limit : Option Nat) : Coherent { limit } where
  some_line _ mem := nomatch mem
  lengths _ mem := nomatch mem
  keys _ mem := nomatch mem

variable {ledger : Ledger} (coherent : ledger.Coherent)

include coherent

theorem Coherent.book {header : Header} {completed : CompletedAllocation}
    (some_line : 1 ≤ header.lines.length)
    (lengths : completed.lines.length = header.lines.length) :
    (ledger.book header completed).Coherent where
  some_line entry mem := by
    rcases List.mem_append.mp mem with earlier | last
    · exact coherent.some_line entry earlier
    · rw [List.mem_singleton.mp last]
      exact lengths ▸ some_line
  lengths entry mem := by
    rcases List.mem_append.mp mem with earlier | last
    · exact coherent.lengths entry earlier
    · rw [List.mem_singleton.mp last]
      exact lengths
  keys link mem := by
    rw [lineIds_book]
    exact List.mem_append_left _ (coherent.keys link mem)

theorem Coherent.setCounter {line counter : AllocationLineId} {after : Ledger}
    (set : ledger.setCounter line counter = .ok after) : after.Coherent := by
  unfold Ledger.setCounter at set
  split at set
  · rename_i booked
    cases set
    refine ⟨coherent.some_line, coherent.lengths, ?_⟩
    intro link mem
    rcases List.mem_cons.mp mem with rfl | earlier
    · exact booked
    · exact coherent.keys link earlier
  · cases set

end Ledger

namespace OpenLedger

variable {store : OpenLedger} (coherent : store.ledger.Coherent)

include coherent

theorem coherent_create (header : Header) : (store.create header).2.ledger.Coherent := by
  unfold create
  split
  · exact coherent
  · split
    · exact coherent
    · rename_i lines
      apply coherent.book
      · rw [Header.isEmpty, List.isEmpty_iff] at lines
        exact List.length_pos_iff.mpr lines
      · simp [IdSupply.drawAllocation, IdSupply.drawMany]

theorem coherent_link (line counter : AllocationLineId) :
    (store.link line counter).2.ledger.Coherent := by
  unfold link
  split
  · rename_i ledger set
    exact coherent.setCounter set
  · exact coherent

end OpenLedger

/-- Whatever is asked of a ledger, and however far it has come, it hangs together. -/
theorem Work.coherent_run {α : Type} (work : Work α) {store : OpenLedger}
    (coherent : store.ledger.Coherent) : (work.run store).2.ledger.Coherent := by
  induction work generalizing store with
  | done result => exact coherent
  | create header next ih =>
      rw [run]
      exact ih _ (OpenLedger.coherent_create coherent header)
  | link line counter next ih =>
      rw [run]
      exact ih _ (OpenLedger.coherent_link coherent line counter)

namespace MemoryManager

variable {ν : Type}

theorem coherent_runAtomically (work : UnitOfWork ν) {manager : MemoryManager}
    (coherent : manager.ledger.Coherent) : (runAtomically work manager).2.ledger.Coherent := by
  rcases runAtomically_cases work manager with ⟨-, ledger_eq, -, -⟩ | ⟨error, -, ledger_eq, -, -⟩
  · rw [ledger_eq]
    have opened : (OpenLedger.mk manager.ledger manager.supply).ledger.Coherent := coherent
    exact work.coherent_run opened
  · rw [ledger_eq]
    exact coherent

theorem coherent_runEach (units : List (UnitOfWork ν)) {manager : MemoryManager}
    (coherent : manager.ledger.Coherent) : (runEach units manager).ledger.Coherent := by
  induction units generalizing manager with
  | nil => exact coherent
  | cons work rest ih => exact ih (coherent_runAtomically work coherent)

/-- Whatever a manager in memory holds, units of work that it runs one after the other come to the
same as those of them that stand.  Starting with a ledger that holds nothing, the ledger hangs
together after any units. -/
theorem runEach_equals_standing (units : List (UnitOfWork ν)) (manager : MemoryManager) :
    manager.EqualsStanding units ∧
      ∀ (limit : Option Nat) (supply : IdSupply) (commits rollbacks : Nat),
        (runEach units ⟨{ limit }, supply, commits, rollbacks⟩).ledger.Coherent := by
  obtain ⟨commits, rollbacks⟩ := counts_runEach units manager
  obtain ⟨ledger, commits_again, rollbacks_again⟩ := replay_standing units (rfl :
    manager.ledger = manager.ledger)
  constructor
  · exact ⟨ledger.symm, commits, rollbacks, commits_again, rollbacks_again⟩
  · intro limit supply commits rollbacks
    exact coherent_runEach units (Ledger.coherent_blank limit)

end MemoryManager

namespace Samples

/-- A header whose two lines cancel out. -/
def transfer : Header where
  organization := organization
  currency := .usd
  transactionDate := transactionDate
  accountingDate := accountingDate
  lines :=
    [{ HeaderLine.blank organization none .usd with amount := .ofMinor 500 .usd },
      { HeaderLine.blank organization none .usd with amount := .ofMinor (-500) .usd }]

/-- Units that book the header: one that stands, one that is abandoned behind the header, and one
that stands again. -/
def transfers : List (UnitOfWork (List AllocationId)) :=
  [.bookAll [] [transfer],
    .create transfer fun _ => .abandon [] (.persistence (.internal "no answer")),
    .bookAll [] [transfer]]

end Samples

/-- Two of three units stand and store a header each, and the second one is stored under the
identifiers behind those that the unit in between has used up. -/
theorem MemoryManager.runEach_equals_standing_samples :
    (history Samples.transfers {}).map UnitRun.stands = [true, false, true] ∧
      (runEach Samples.transfers {}).ledger.entries =
        [⟨⟨IdSupply.nth 0⟩, Samples.transfer, [⟨IdSupply.nth 1⟩, ⟨IdSupply.nth 2⟩]⟩,
          ⟨⟨IdSupply.nth 6⟩, Samples.transfer, [⟨IdSupply.nth 7⟩, ⟨IdSupply.nth 8⟩]⟩] ∧
      EqualsStanding Samples.transfers {} ∧
      (runEach Samples.transfers {}).ledger.Coherent := by
  obtain ⟨equals, coherent⟩ := runEach_equals_standing Samples.transfers {}
  exact ⟨by decide +kernel, by decide +kernel, equals, coherent none {} 0 0⟩

end Settlement
