import Settlement.Store.Ledger

/-!
# Transaction managers

A transaction manager runs units of work so that each of them stands as a whole or leaves no
trace.  The manager in memory keeps a ledger, remembers it before each unit, and puts it back
when the unit shall not stand.
-/

namespace Settlement

/-- How a unit of work went: the note it left, where it ran at all, and whether it stands. -/
structure UnitOutcome (ν : Type) where
  /-- The note of the unit; none when it did not run. -/
  note : Option ν
  /-- Whether the unit stands. -/
  result : Except AllocationError Unit

/-- What runs units of work, with states `τ`. -/
class TransactionManager (τ : Type) where
  /-- Runs a unit of work, which stands as a whole or leaves no trace. -/
  runAtomically : {ν : Type} → UnitOfWork ν → τ → UnitOutcome ν × τ

/-- A transaction manager over a ledger in memory. -/
structure MemoryManager where
  /-- The ledger. -/
  ledger : Ledger := {}
  /-- The supply of identifiers, which is never put back. -/
  supply : IdSupply := {}
  /-- How many units stand. -/
  commits : Nat := 0
  /-- How many units left no trace. -/
  rollbacks : Nat := 0
  deriving DecidableEq, Repr

namespace MemoryManager

/-- The manager after work on an open ledger, which shall stand or not. -/
def close (manager : MemoryManager) (worked : OpenLedger) (result : Except AllocationError Unit) :
    MemoryManager :=
  match result with
  | .ok () =>
      { manager with
        ledger := worked.ledger
        supply := worked.supply
        commits := manager.commits + 1 }
  | .error _ =>
      { manager with
        supply := worked.supply
        rollbacks := manager.rollbacks + 1 }

/-- Runs a unit of work on the ledger and puts the ledger back if the unit shall not stand. -/
def runAtomically {ν : Type} (work : UnitOfWork ν) (manager : MemoryManager) :
    UnitOutcome ν × MemoryManager :=
  let ((note, result), worked) := work.run (OpenLedger.mk manager.ledger manager.supply)
  (⟨some note, result⟩, manager.close worked result)

instance : TransactionManager MemoryManager where
  runAtomically := runAtomically

end MemoryManager
end Settlement
