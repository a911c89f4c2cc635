import Settlement.Store.Manager

/-!
# Stand-in managers

Transaction managers that a caller might meet and that do not behave like the one in memory: they
rehearse a unit of work, never run it, refuse it, or run it on a store that keeps nothing.  Each
of them is built around a manager in memory.
-/

namespace Settlement

/-- A store that keeps nothing: it gives identifiers for every header and links no lines. -/
structure BlindStore where
  /-- How many lines it claims to have booked, where not as many as the header has. -/
  claimedLines : Option Nat
  /-- The supply of identifiers. -/
  supply : IdSupply
  deriving DecidableEq, Repr

namespace BlindStore

/-- Gives identifiers for a header. -/
def create (header : Header) (store : BlindStore) :
    Except StoreError (Option CompletedAllocation) × BlindStore :=
  let (completed, supply) :=
    store.supply.drawAllocation (store.claimedLines.getD header.lines.length)
  (.ok (some completed), { store with supply })

instance : AllocationStore BlindStore where
  create := create
  link _ _ store := (.error (.notFound "AllocationLine" "odd"), store)

end BlindStore

/-- The ways in which a manager can treat a unit of work. -/
inductive ManagerBehaviour where
  /-- It runs the unit once. -/
  | once
  /-- It runs the unit on a copy first, and for good if that one stands. -/
  | twice
  /-- It says that the unit stands without running it. -/
  | never
  /-- It refuses the unit without running it. -/
  | refuse
  /-- It runs the unit on a store that keeps nothing. -/
  | blind
  /-- It runs the unit on a store that keeps nothing and claims three lines for every header. -/
  | threeLines
  deriving DecidableEq, Repr

/-- A manager in memory behind one of the behaviours. -/
structure StandInManager where
  /-- How units of work are treated. -/
  behaviour : ManagerBehaviour := .once
  /-- The manager behind it. -/
  memory : MemoryManager := {}
  deriving DecidableEq, Repr

namespace StandInManager

/-- Runs a unit of work on a store that keeps nothing, as a unit of the manager in memory. -/
def runBlind {ν : Type} (claimedLines : Option Nat) (work : UnitOfWork ν)
    (memory : MemoryManager) : UnitOutcome ν × MemoryManager :=
  let ((note, result), blind) := work.run (BlindStore.mk claimedLines memory.supply)
  (⟨some note, result⟩, memory.close ⟨memory.ledger, blind.supply⟩ result)

/-- Runs a unit of work on a copy, and for good if it stands there. -/
def runRehearsed {ν : Type} (work : UnitOfWork ν) (memory : MemoryManager) :
    UnitOutcome ν × MemoryManager :=
  let (rehearsal, _) := memory.runAtomically work
  match rehearsal.result with
  | .ok () => memory.runAtomically work
  | .error _ => (rehearsal, memory)

/-- Treats a unit of work as the behaviour says. -/
def treat {ν : Type} (behaviour : ManagerBehaviour) (work : UnitOfWork ν)
    (memory : MemoryManager) : UnitOutcome ν × MemoryManager :=
  match behaviour with
  | .once => memory.runAtomically work
  | .twice => runRehearsed work memory
  | .never => (⟨none, .ok ()⟩, memory)
  | .refuse => (⟨none, .error (.persistence (.internal "refused"))⟩, memory)
  | .blind => runBlind none work memory
  | .threeLines => runBlind (some 3) work memory

instance : TransactionManager StandInManager where
  runAtomically work manager :=
    let (outcome, memory) := treat manager.behaviour work manager.memory
    (outcome, { manager with memory })

end StandInManager
end Settlement
