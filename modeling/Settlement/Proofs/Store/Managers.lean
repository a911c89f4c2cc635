import Settlement.Proofs.Refusals
import Settlement.Store.StandIn

/-!
# Lawful transaction managers

A lawful manager refuses a unit of work only with an error that the unit itself ends with on some
store, or because its own store has failed.  The manager in memory is lawful and so is every
stand-in.  Booking headers through a lawful manager fails only because of a store.
-/

namespace Settlement

/-- An error of a unit of work comes from the unit or from the store. -/
class LawfulManager (τ : Type) [TransactionManager τ] : Prop where
  fails {ν : Type} (work : UnitOfWork ν) (manager : τ) (error : AllocationError) :
    (TransactionManager.runAtomically work manager).1.result = .error error →
      (∃ cause, error = .persistence cause) ∨
        ∃ (σ : Type) (_ : AllocationStore σ) (store : σ), (work.run store).1.2 = .error error

instance : LawfulManager MemoryManager where
  fails _ manager _ failed := .inr ⟨_, _, OpenLedger.mk manager.ledger manager.supply, failed⟩

namespace StandInManager

variable {ν : Type} {work : UnitOfWork ν} {memory : MemoryManager} {error : AllocationError}

/-- A rehearsed unit fails as it does on the copy. -/
theorem result_runRehearsed
    (failed : (runRehearsed work memory).1.result = .error error) :
    (memory.runAtomically work).1.result = .error error := by
  unfold runRehearsed at failed
  dsimp only at failed
  split at failed
  · exact failed
  · exact failed

instance : LawfulManager StandInManager where
  fails work manager error failed := by
    obtain ⟨behaviour, memory⟩ := manager
    cases behaviour with
    | once => exact LawfulManager.fails work memory error failed
    | twice => exact LawfulManager.fails work memory error (result_runRehearsed failed)
    | never => cases failed
    | refuse =>
        cases failed
        exact .inl ⟨_, rfl⟩
    | blind => exact .inr ⟨_, _, BlindStore.mk none memory.supply, failed⟩
    | threeLines => exact .inr ⟨_, _, BlindStore.mk (some 3) memory.supply, failed⟩

end StandInManager

/-! ## Booking -/

namespace Work

variable {ν σ : Type} [AllocationStore σ]

theorem failsOnly_linkBoth {note : ν} {first second : AllocationLineId} {next : UnitOfWork ν}
    (rest : ∀ store : σ, FailsOnly (∃ cause, · = .persistence cause) (next.run store).1.2)
    (store : σ) :
    FailsOnly (∃ cause, · = .persistence cause)
      ((linkBoth note first second next).run store).1.2 := by
  rw [linkBoth, run]
  rcases AllocationStore.link first second store with ⟨cause | linked, store⟩
  · exact failsOnly_error ⟨cause, rfl⟩
  dsimp only
  rw [run]
  rcases AllocationStore.link second first store with ⟨cause | linked, store⟩
  · exact failsOnly_error ⟨cause, rfl⟩
  · exact rest store

/-- On any store, booking headers fails only because the store does. -/
theorem failsOnly_bookAll (noted : List AllocationId) (headers : List Header) (store : σ) :
    FailsOnly (∃ cause, · = .persistence cause) ((bookAll noted headers).run store).1.2 := by
  induction headers generalizing noted store with
  | nil => exact failsOnly_ok ()
  | cons header rest ih =>
      rw [bookAll, run]
      rcases AllocationStore.create header store with ⟨cause | _ | completed, store⟩
      · exact failsOnly_error ⟨cause, rfl⟩
      · exact ih noted store
      · dsimp only
        split
        · exact failsOnly_linkBoth (ih _) store
        · exact ih _ store

end Work

namespace Run

variable {τ : Type} [TransactionManager τ] [LawfulManager τ] {run : Run}
  {property : AllocationError → Prop}

theorem failsOnly_bookHeaders (headers : List Header) (manager : τ) :
    FailsOnly (∃ cause, · = .persistence cause) (bookHeaders headers manager).1 := by
  unfold bookHeaders
  rcases worked : TransactionManager.runAtomically (Work.bookAll [] headers) manager with
    ⟨⟨note, error | stands⟩, after⟩
  · apply failsOnly_error
    have failed := congrArg (fun outcome => outcome.1.result) worked
    obtain stored | ⟨σ, _, store, unfinished⟩ := LawfulManager.fails _ manager error failed
    · exact stored
    · exact Work.failsOnly_bookAll [] headers store error unfinished
  · exact failsOnly_ok _

/-- Booking is refused for headers that cannot be drawn up, for want of a manager or by the
store. -/
theorem failsOnly_bookUnlessDry {candidates : List Candidate} (manager : Option τ)
    (drawn : FailsOnly property (run.headers candidates))
    (unmanaged : ∀ text, property (.configuration text))
    (stored : ∀ cause, property (.persistence cause)) :
    FailsOnly property (run.bookUnlessDry candidates manager).1 := by
  unfold bookUnlessDry book
  split
  · exact failsOnly_ok []
  cases headers_eq : run.headers candidates with
  | error error => exact failsOnly_error (drawn error headers_eq)
  | ok headers =>
      cases manager with
      | none => exact failsOnly_error (unmanaged _)
      | some manager =>
          intro error failed
          obtain ⟨cause, rfl⟩ := failsOnly_bookHeaders headers manager error failed
          exact stored cause

end Run
end Settlement
