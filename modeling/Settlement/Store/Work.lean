import Settlement.Header

/-!
# Units of work

A unit of work talks to a store: it asks for headers to be booked and lines to be linked, and
goes on by what the store answers.  It is kept as the tree of its requests, so that one unit can
run on any store and more than once.  At its end it leaves a note and says whether what it did
shall stand.
-/

namespace Settlement

/-- What can be asked of a store with states `σ`.  A request changes the store and is answered. -/
class AllocationStore (σ : Type) where
  /-- Books a header.  A header without lines may be answered by nothing. -/
  create : Header → σ → Except StoreError (Option CompletedAllocation) × σ
  /-- Names the counter line of a line. -/
  link : (line counter : AllocationLineId) → σ → Except StoreError Unit × σ

/-- Requests to a store, each followed by what to do on its answer. -/
inductive Work (α : Type) where
  /-- The work is done. -/
  | done (result : α)
  /-- Ask for a header to be booked. -/
  | create (header : Header) (next : Except StoreError (Option CompletedAllocation) → Work α)
  /-- Ask for the counter line of a line to be set. -/
  | link (line counter : AllocationLineId) (next : Except StoreError Unit → Work α)

/-- Work that leaves a note and says whether it shall stand. -/
abbrev UnitOfWork (ν : Type) := Work (ν × Except AllocationError Unit)

namespace Work

/-- Does the work on a store. -/
def run {α σ : Type} [AllocationStore σ] : Work α → σ → α × σ
  | done result, store => (result, store)
  | create header next, store =>
      let (answer, store) := AllocationStore.create header store
      (next answer).run store
  | link line counter next, store =>
      let (answer, store) := AllocationStore.link line counter store
      (next answer).run store

/-- The end of a unit that shall stand. -/
def commit {ν : Type} (note : ν) : UnitOfWork ν := done (note, .ok ())

/-- The end of a unit that shall not stand. -/
def abandon {ν : Type} (note : ν) (error : AllocationError) : UnitOfWork ν :=
  done (note, .error error)

/-- Links two lines both ways. -/
def linkBoth {ν : Type} (note : ν) (first second : AllocationLineId) (next : UnitOfWork ν) :
    UnitOfWork ν :=
  link first second fun
    | .error error => abandon note (.persistence error)
    | .ok () => link second first fun
      | .error error => abandon note (.persistence error)
      | .ok () => next

/-- Books headers in order and notes the identifiers they are given.  The lines of a header with
two of them are linked to each other; a header that is not booked is passed over. -/
def bookAll (noted : List AllocationId) : List Header → UnitOfWork (List AllocationId)
  | [] => commit noted
  | header :: rest => create header fun
    | .error error => abandon noted (.persistence error)
    | .ok none => bookAll noted rest
    | .ok (some completed) =>
        match completed.lines with
        | [first, second] =>
            linkBoth noted first second (bookAll (noted ++ [completed.allocation]) rest)
        | _ => bookAll (noted ++ [completed.allocation]) rest

end Work
end Settlement
