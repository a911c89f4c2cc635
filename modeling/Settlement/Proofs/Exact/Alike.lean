import Settlement.Proofs.Exact.Groups
import Settlement.Proofs.Exact.Reversals

/-!
# Books in another order

Two books with the same documents in another order do not pair the same documents.  But each pass
settles the same in both between the groups that it pairs, and leaves the same of the groups that
the passes after it pair.
-/

namespace Settlement

theorem places_ne_nil {α : Type} {property : α → Bool} {entries : List α} :
    places property entries ≠ [] ↔ ∃ entry ∈ entries, property entry = true := by
  constructor
  · intro some_places
    obtain ⟨index, mem⟩ := List.exists_mem_of_ne_nil _ some_places
    obtain ⟨entry, entry_eq, holds⟩ := mem_places.mp mem
    exact ⟨entry, List.mem_of_getElem? entry_eq, holds⟩
  · rintro ⟨entry, mem, holds⟩
    obtain ⟨index, entry_eq⟩ := List.mem_iff_getElem?.mp mem
    exact List.ne_nil_of_mem (mem_places.mpr ⟨entry, entry_eq, holds⟩)

namespace Book

/-- Two books with the same documents in another order, whatever has been settled so far. -/
structure Permuted (policy : LeftoverPolicy) (first second : Book) : Prop where
  first_sound : first.Sound policy
  second_sound : second.Sound policy
  first_distinct : first.Distinct
  second_distinct : second.Distinct
  debts : (first.debts.map Debt.toTerms).Perm (second.debts.map Debt.toTerms)
  funds : (first.funds.map Fund.toTerms).Perm (second.funds.map Fund.toTerms)

variable {policy : LeftoverPolicy} {first second first' second' : Book}

theorem Permuted.later (permuted : Permuted policy first second)
    (first_later : Later policy first first') (second_later : Later policy second second') :
    Permuted policy first' second' where
  first_sound := first_later.sound
  second_sound := second_later.sound
  first_distinct := first_later.distinct permuted.first_distinct
  second_distinct := second_later.distinct permuted.second_distinct
  debts := by
    rw [forall₂_map_eq first_later.debts fun _ _ step => step.terms_eq,
      forall₂_map_eq second_later.debts fun _ _ step => step.terms_eq]
    exact permuted.debts
  funds := by
    rw [forall₂_map_eq first_later.funds fun _ _ step => step.terms_eq,
      forall₂_map_eq second_later.funds fun _ _ step => step.terms_eq]
    exact permuted.funds

/-- Both books have documents that serve as a means of payment, or none has. -/
theorem Permuted.payers_ne_nil (permuted : Permuted policy first second)
    (selects : Debt.Terms → Bool) (means : Nat → Means) :
    (places (fun debt => selects debt.toTerms) first.debts).map means ≠ [] ↔
      (places (fun debt => selects debt.toTerms) second.debts).map means ≠ [] := by
  rw [Ne, Ne, List.map_eq_nil_iff, List.map_eq_nil_iff, ← Ne, ← Ne,
    ← places_map Debt.toTerms selects, ← places_map Debt.toTerms selects, places_ne_nil,
    places_ne_nil]
  simp only [permuted.debts.mem_iff]

theorem Permuted.funds_ne_nil (permuted : Permuted policy first second) (means : Nat → Means) :
    (List.range first.funds.length).map means ≠ [] ↔
      (List.range second.funds.length).map means ≠ [] := by
  have length_eq := permuted.funds.length_eq
  rw [List.length_map, List.length_map] at length_eq
  rw [length_eq]

end Book

/-! ## What a pass decides -/

namespace Weights

/-- What a pass of the kind settles of a weighed book is decided by what is left of tracked
ones. -/
inductive Determined (kind : CandidateKind) (tracked : Weights → Prop) : Weights → Prop where
  | pool {owes pool : Weights} (pooled : Pool kind owes pool) (owes_tracked : tracked owes)
      (pool_tracked : tracked pool) : Determined kind tracked owes
  | idle {weights : Weights} (gains : ∀ currency, weights.Gains kind currency 0) :
      Determined kind tracked weights
  | even {weights other : Weights} (determined : Determined kind tracked weights)
      (gains : ∀ currency, (weights + -other).Gains kind currency 0) :
      Determined kind tracked other
  | add {first second : Weights} (left : Determined kind tracked first)
      (right : Determined kind tracked second) : Determined kind tracked (first + second)
  | neg {weights : Weights} (determined : Determined kind tracked weights) :
      Determined kind tracked (-weights)

/-- What a pass of the kind leaves of a weighed book is decided as well: the pass settles all of
its debts, or none of them. -/
structure Carried (kind : CandidateKind) (tracked : Weights → Prop) (weights : Weights) :
    Prop where
  member : tracked weights
  determined : Determined kind tracked weights
  apart : ((∀ terms : Debt.Terms, weights.debt terms ≠ 0 → kind.settles terms = true) ∧
      ∀ terms : Fund.Terms, weights.fund terms = 0) ∨
    ∀ terms : Debt.Terms, weights.debt terms ≠ 0 → kind.settles terms = false

end Weights

namespace History

/-- Two histories with the same left of tracked weighed books and the same paid so far. -/
structure Alike (tracked : Weights → Prop) (first second : History) : Prop where
  outstanding : ∀ weights, tracked weights →
    first.book.outstanding weights = second.book.outstanding weights
  paid : ∀ kind, kind ≠ .invoiceDiscountOrWriteOff → ∀ currency,
    first.paid kind currency = second.paid kind currency

variable {tracked later : Weights → Prop} {kind : CandidateKind} {swept swept' : Prop}
  {first second first' second' : History}

namespace Exchanges

variable (early : Exchanges kind swept first first') (late : Exchanges kind swept' second second')
  (alike : Alike tracked first second)

include early late alike

theorem settled_sub {weights : Weights} (determined : weights.Determined kind tracked) :
    first'.book.settled weights - first.book.settled weights =
      second'.book.settled weights - second.book.settled weights := by
  induction determined with
  | pool pooled owes_tracked pool_tracked =>
      have first_pool := early.pool pooled
      have second_pool := late.pool pooled
      have owes_eq := alike.outstanding _ owes_tracked
      have pool_eq := alike.outstanding _ pool_tracked
      omega
  | idle gains =>
      have first_gain := early.gain (gains .usd)
      have second_gain := late.gain (gains .usd)
      omega
  | even determined gains ih =>
      have first_gain := early.gain (gains .usd)
      have second_gain := late.gain (gains .usd)
      simp only [Book.settled, Book.weigh_add, Book.weigh_neg] at first_gain second_gain ih ⊢
      omega
  | add left right left_ih right_ih =>
      simp only [Book.settled, Book.weigh_add] at left_ih right_ih ⊢
      omega
  | neg determined ih =>
      simp only [Book.settled, Book.weigh_neg] at ih ⊢
      omega

theorem outstanding_eq (same : swept ↔ swept') {weights : Weights}
    (carried : weights.Carried kind tracked) :
    first'.book.outstanding weights = second'.book.outstanding weights := by
  have settled := early.settled_sub late alike carried.determined
  have before := alike.outstanding _ carried.member
  rcases carried.apart with ⟨inside, no_funds⟩ | outside
  · by_cases sweeps : swept
    · rw [early.cleared sweeps inside no_funds, late.cleared (same.mp sweeps) inside no_funds]
    · have first_kept := early.kept weights fun swept => absurd swept sweeps
      have second_kept := late.kept weights fun swept => absurd (same.mpr swept) sweeps
      omega
  · have first_kept := early.kept weights fun _ => outside
    have second_kept := late.kept weights fun _ => outside
    omega

/-- Two passes over books that are left alike leave them alike. -/
theorem leaves_alike (same : swept ↔ swept')
    (carries : ∀ weights, later weights → weights.Carried kind tracked)
    {paying : Currency → Weights}
    (determined : ∀ currency, (paying currency).Determined kind tracked)
    (gains : ∀ currency, (paying currency).Gains kind currency 1) : Alike later first' second' where
  outstanding weights mem := early.outstanding_eq late alike same (carries weights mem)
  paid other two_sided currency := by
    have before := alike.paid other two_sided currency
    by_cases here : other = kind
    · subst here
      have first_gain := early.gain (gains currency)
      have second_gain := late.gain (gains currency)
      have settled := early.settled_sub late alike (determined currency)
      omega
    · rw [early.others other currency here two_sided, late.others other currency here two_sided,
        before]

end Exchanges

end History
end Settlement
