import Settlement.Store.Work

/-!
# The ledger in memory

A ledger keeps booked headers in order, with the identifiers of their lines, and the counter line
of every line that has been linked.  It can be told to fail once it holds a number of headers.
Identifiers are drawn from a supply that never gives one twice.
-/

namespace Settlement

/-- A supply of identifiers. -/
structure IdSupply where
  /-- How many have been drawn. -/
  drawn : Nat := 0
  deriving DecidableEq, Repr

namespace IdSupply

/-- The identifier that is drawn as number `serial`. -/
def nth (serial : Nat) : Uuid := Uuid.timeOrdered 0x018e3fb54400#48 (BitVec.ofNat 62 serial)

/-- Draws one identifier. -/
def draw {kind : RecordKind} (supply : IdSupply) : Identifier kind × IdSupply :=
  (⟨IdSupply.nth supply.drawn⟩, ⟨supply.drawn + 1⟩)

/-- Draws several identifiers. -/
def drawMany {kind : RecordKind} (supply : IdSupply) (count : Nat) :
    List (Identifier kind) × IdSupply :=
  ((List.range count).map fun offset => ⟨IdSupply.nth (supply.drawn + offset)⟩,
    ⟨supply.drawn + count⟩)

/-- Draws the identifiers for a header and for a number of lines. -/
def drawAllocation (supply : IdSupply) (lineCount : Nat) : CompletedAllocation × IdSupply :=
  let (allocation, supply) := supply.draw
  let (lines, supply) := supply.drawMany lineCount
  (⟨allocation, lines⟩, supply)

end IdSupply

/-- A booked header. -/
structure StoredAllocation where
  /-- The identifier of the header. -/
  id : AllocationId
  /-- The header as it was asked for. -/
  header : Header
  /-- The identifiers of its lines, in order. -/
  lines : List AllocationLineId
  deriving DecidableEq, Repr

/-- Booked headers and linked lines. -/
structure Ledger where
  /-- The booked headers, in order. -/
  entries : List StoredAllocation := []
  /-- The counter lines, the latest link first. -/
  counters : List (AllocationLineId × AllocationLineId) := []
  /-- How many headers are booked before booking fails. -/
  limit : Option Nat := none
  deriving DecidableEq, Repr

namespace Ledger

/-- The identifiers of all booked lines, in order. -/
def lineIds (ledger : Ledger) : List AllocationLineId := ledger.entries.flatMap (·.lines)

/-- How many lines are booked. -/
def lineCount (ledger : Ledger) : Nat := ledger.lineIds.length

/-- The counter line of a line. -/
def counter? (ledger : Ledger) (line : AllocationLineId) : Option AllocationLineId :=
  ledger.counters.lookup line

/-- Why no further header can be booked. -/
def refusal? (ledger : Ledger) : Option StoreError :=
  match ledger.limit with
  | some limit =>
      if limit ≤ ledger.entries.length then
        some (.internal s!"injected failure after {limit} allocation headers")
      else
        none
  | none => none

/-- Books a header under given identifiers. -/
def book (ledger : Ledger) (header : Header) (completed : CompletedAllocation) : Ledger :=
  { ledger with
    entries := ledger.entries ++ [⟨completed.allocation, header, completed.lines⟩] }

/-- Sets the counter line of a booked line. -/
def setCounter (ledger : Ledger) (line counter : AllocationLineId) : Except StoreError Ledger :=
  if line ∈ ledger.lineIds then
    .ok { ledger with counters := (line, counter) :: ledger.counters }
  else
    .error (.notFound "AllocationLine" line.display)

end Ledger

/-- A ledger and the supply that it draws identifiers from. -/
structure OpenLedger where
  /-- The ledger. -/
  ledger : Ledger
  /-- The supply of identifiers. -/
  supply : IdSupply
  deriving DecidableEq, Repr

namespace OpenLedger

/-- Books a header under fresh identifiers, unless the ledger refuses or there is nothing to
book. -/
def create (header : Header) (store : OpenLedger) :
    Except StoreError (Option CompletedAllocation) × OpenLedger :=
  match store.ledger.refusal? with
  | some error => (.error error, store)
  | none =>
      if header.isEmpty then
        (.ok none, store)
      else
        let (completed, supply) := store.supply.drawAllocation header.lines.length
        (.ok (some completed), ⟨store.ledger.book header completed, supply⟩)

/-- Sets the counter line of a booked line. -/
def link (line counter : AllocationLineId) (store : OpenLedger) :
    Except StoreError Unit × OpenLedger :=
  match store.ledger.setCounter line counter with
  | .ok ledger => (.ok (), { store with ledger })
  | .error error => (.error error, store)

instance : AllocationStore OpenLedger where
  create := create
  link := link

end OpenLedger
end Settlement
