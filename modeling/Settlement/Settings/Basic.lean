import Settlement.DocumentKind

/-!
# Settings of a run

The policies that a run follows.
-/

namespace Settlement

/-- The policies that a run follows. -/
structure Settings where
  /-- Refuse runs with more than one vendor document of a kind. -/
  onlyOneVendorDocument : Bool := true
  /-- Accept documents that stay open at the end. -/
  partialAllocations : Bool := false
  /-- Let purchase invoices settle sales invoices. -/
  compensation : Bool := false
  /-- What becomes of what no payment covers. -/
  leftover : LeftoverPolicy := .leaveOpen
  deriving DecidableEq, Repr

end Settlement
