import Settlement.Uuid

/-!
# Identifiers of records

Every kind of record has identifiers of its own, so that one kind cannot stand where another is
meant.  The text of an identifier is the label of its kind, a dash and the hyphenated value; a
reader of one kind takes the value with or without the label of that kind.
-/

namespace Settlement

/-- The kinds of records that have identifiers. -/
inductive RecordKind where
  | invoice | payment | order | party | organization | allocation | allocationLine
  deriving DecidableEq, Repr

namespace RecordKind

/-- The letters in front of the identifiers of a kind. -/
def label : RecordKind → String
  | invoice => "INV"
  | payment => "PAY"
  | order => "ORD"
  | party => "PTY"
  | organization => "ORG"
  | allocation => "ALC"
  | allocationLine => "ALCL"

end RecordKind

/-- An identifier of one kind of record. -/
structure Identifier (kind : RecordKind) where
  /-- The value that tells records of the kind apart. -/
  uuid : Uuid
  deriving DecidableEq, Repr

abbrev InvoiceId := Identifier .invoice
abbrev PaymentId := Identifier .payment
abbrev OrderId := Identifier .order
abbrev PartyId := Identifier .party
abbrev OrganizationId := Identifier .organization
abbrev AllocationId := Identifier .allocation
abbrev AllocationLineId := Identifier .allocationLine

namespace Identifier

variable {kind : RecordKind}

/-- The label of a kind and its dash. -/
def heading (kind : RecordKind) : List Char := kind.label.toList ++ ['-']

/-- The label, a dash and the hyphenated value. -/
def toChars (identifier : Identifier kind) : List Char :=
  heading kind ++ identifier.uuid.toChars

/-- The label, a dash and the hyphenated value, as text. -/
def display (identifier : Identifier kind) : String := String.ofList identifier.toChars

/-- The text behind the heading of the kind, or all of it where the heading is missing. -/
def unlabelled (kind : RecordKind) (chars : List Char) : List Char :=
  ((heading kind).isPrefixOf? chars).getD chars

/-- Reads an identifier with or without the label of its kind. -/
def ofChars? (chars : List Char) : Option (Identifier kind) :=
  (Uuid.ofChars? (unlabelled kind chars)).map Identifier.mk

/-- Reads an identifier from text. -/
def ofText? (text : String) : Option (Identifier kind) := ofChars? text.toList

/-- The identifier with a number. -/
def ofNat (number : Nat) : Identifier kind := ⟨Uuid.ofNat number⟩

end Identifier
end Settlement
