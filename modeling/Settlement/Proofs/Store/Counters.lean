import Mathlib.Data.List.Nodup
import Mathlib.Data.List.Pairwise
import Settlement.Proofs.Exact.Builds
import Settlement.Proofs.Store.Bookings

/-!
# Counter lines

The links of a ledger are those of its headers: every header with two lines has added one link
each way when it was booked, and no other header has added any.  A unit of work keeps this whether
it stands or not, and so does every build.  Where the identifiers of lines are distinct, looking up
counter lines therefore pairs the two lines of a header with each other.
-/

namespace Settlement

namespace Ledger

/-- The links between the lines of one header, the latest first. -/
def links : List AllocationLineId → List (AllocationLineId × AllocationLineId)
  | [first, second] => [(second, first), (first, second)]
  | _ => []

theorem mem_links {lines : List AllocationLineId} {line counter : AllocationLineId} :
    (line, counter) ∈ links lines ↔ lines = [line, counter] ∨ lines = [counter, line] := by
  unfold links
  split
  · rename_i first second
    simp only [List.mem_cons, Prod.mk.injEq, List.not_mem_nil, or_false, List.cons.injEq, and_true]
    tauto
  · rename_i no_pair
    constructor
    · intro mem
      cases mem
    · rintro (rfl | rfl)
      · exact (no_pair _ _ rfl).elim
      · exact (no_pair _ _ rfl).elim

theorem counters_linkLines (ledger : Ledger) (lines : List AllocationLineId) :
    (ledger.linkLines lines).counters = links lines ++ ledger.counters := by
  unfold linkLines
  split
  · rfl
  · rename_i no_pair
    rw [links]
    · rfl
    · exact no_pair

/-- Every header has an identifier for each of its lines, and the links are those of the headers,
the latest first. -/
structure Linked (ledger : Ledger) : Prop where
  lengths : ∀ entry ∈ ledger.entries, entry.lines.length = entry.header.lines.length
  counters_eq : ledger.counters = ledger.entries.reverse.flatMap fun entry => links entry.lines

/-- A ledger without headers and links is linked, whatever its limit is. -/
theorem linked_blank (limit : Option Nat) : Linked { limit } where
  lengths _ mem := nomatch mem
  counters_eq := rfl

/-- Counter lines pair the lines of a header with each other: the two lines of a header with two
lines, and no others. -/
structure PairsLines (ledger : Ledger) : Prop where
  lengths : ∀ entry ∈ ledger.entries, entry.lines.length = entry.header.lines.length
  two_lines : ∀ entry ∈ ledger.entries, ∀ line ∈ entry.lines,
    (ledger.counter? line).isSome = true ↔ entry.header.lines.length = 2
  paired : ∀ entry ∈ ledger.entries, ∀ first second, entry.lines = [first, second] →
    ledger.counter? first = some second ∧ ledger.counter? second = some first
  /-- What has a counter line stands in one header with it. -/
  inside : ∀ line counter, ledger.counter? line = some counter →
    ∃ entry ∈ ledger.entries, entry.lines = [line, counter] ∨ entry.lines = [counter, line]
  irreflexive : ∀ line, ledger.counter? line ≠ some line
  /-- Both lines of every link are booked. -/
  stored : ∀ link ∈ ledger.counters, link.1 ∈ ledger.lineIds ∧ link.2 ∈ ledger.lineIds

variable {ledger : Ledger} {line counter : AllocationLineId}

/-! ## Looking up links -/

/-- Two lines are linked exactly when they are the two lines of a header. -/
theorem Linked.mem_counters (linked : ledger.Linked) :
    (line, counter) ∈ ledger.counters ↔
      ∃ entry ∈ ledger.entries, entry.lines = [line, counter] ∨ entry.lines = [counter, line] := by
  simp only [linked.counters_eq, List.mem_flatMap, List.mem_reverse, mem_links]

theorem mem_counters_of_counter? (found : ledger.counter? line = some counter) :
    (line, counter) ∈ ledger.counters := by
  obtain ⟨earlier, later, counters_eq, -⟩ := List.lookup_eq_some_iff.mp found
  rw [counters_eq]
  exact List.mem_append_right _ List.mem_cons_self

/-- A line stands in one header only where the identifiers of lines are distinct. -/
theorem lines_eq_of_mem (distinct : ledger.lineIds.Nodup) {entry other : StoredAllocation}
    (entry_mem : entry ∈ ledger.entries) (other_mem : other ∈ ledger.entries)
    (line_mem : line ∈ entry.lines) (line_mem' : line ∈ other.lines) : entry = other := by
  have symmetric : Std.Symm (Function.onFun List.Disjoint StoredAllocation.lines) :=
    ⟨fun _ _ => List.disjoint_symm⟩
  by_contra differ
  have apart := (List.nodup_flatMap.mp distinct).2.forall entry_mem other_mem differ
  exact apart line_mem line_mem'

/-- The two lines of a header have each other and no other line as counter line. -/
theorem Linked.counter?_eq_some_iff (linked : ledger.Linked) (distinct : ledger.lineIds.Nodup) :
    ledger.counter? line = some counter ↔
      ∃ entry ∈ ledger.entries, entry.lines = [line, counter] ∨ entry.lines = [counter, line] := by
  constructor
  · intro found
    exact linked.mem_counters.mp (mem_counters_of_counter? found)
  · rintro ⟨entry, entry_mem, lines_eq⟩
    have mem := linked.mem_counters.mpr ⟨entry, entry_mem, lines_eq⟩
    obtain ⟨found, found_eq⟩ : ∃ found, ledger.counter? line = some found :=
      Option.isSome_iff_exists.mp (List.lookup_isSome_iff.mpr ⟨_, mem, BEq.rfl⟩)
    obtain ⟨other, other_mem, found_lines⟩ :=
      linked.mem_counters.mp (mem_counters_of_counter? found_eq)
    -- Both headers hold the line, so they are one, and its other line is the counter line.
    have line_mem : line ∈ entry.lines := by
      rcases lines_eq with lines_eq | lines_eq <;> simp [lines_eq]
    have line_mem' : line ∈ other.lines := by
      rcases found_lines with found_lines | found_lines <;> simp [found_lines]
    obtain rfl := lines_eq_of_mem distinct entry_mem other_mem line_mem line_mem'
    have entry_distinct := (List.nodup_flatMap.mp distinct).1 entry entry_mem
    rw [found_eq, Option.some.injEq]
    rcases lines_eq with lines_eq | lines_eq <;>
      rcases found_lines with found_lines | found_lines <;> simp_all

/-- Where the identifiers of lines are distinct, the links of the headers pair their lines. -/
theorem Linked.pairsLines (linked : ledger.Linked) (distinct : ledger.lineIds.Nodup) :
    ledger.PairsLines where
  lengths := linked.lengths
  two_lines entry entry_mem line line_mem := by
    rw [← linked.lengths entry entry_mem, Option.isSome_iff_exists]
    constructor
    · rintro ⟨counter, found⟩
      obtain ⟨other, other_mem, lines_eq⟩ := (linked.counter?_eq_some_iff distinct).mp found
      have line_mem' : line ∈ other.lines := by
        rcases lines_eq with lines_eq | lines_eq <;> simp [lines_eq]
      obtain rfl := lines_eq_of_mem distinct entry_mem other_mem line_mem line_mem'
      rcases lines_eq with lines_eq | lines_eq <;> simp [lines_eq]
    · intro two
      obtain ⟨first, second, lines_eq⟩ := List.length_eq_two.mp two
      rw [lines_eq, List.mem_pair] at line_mem
      rcases line_mem with rfl | rfl
      · exact ⟨second, (linked.counter?_eq_some_iff distinct).mpr ⟨entry, entry_mem, .inl lines_eq⟩⟩
      · exact ⟨first, (linked.counter?_eq_some_iff distinct).mpr ⟨entry, entry_mem, .inr lines_eq⟩⟩
  paired entry entry_mem first second lines_eq :=
    ⟨(linked.counter?_eq_some_iff distinct).mpr ⟨entry, entry_mem, .inl lines_eq⟩,
      (linked.counter?_eq_some_iff distinct).mpr ⟨entry, entry_mem, .inr lines_eq⟩⟩
  inside line counter := (linked.counter?_eq_some_iff distinct).mp
  irreflexive line found := by
    obtain ⟨entry, entry_mem, lines_eq⟩ := (linked.counter?_eq_some_iff distinct).mp found
    have entry_distinct := (List.nodup_flatMap.mp distinct).1 entry entry_mem
    rcases lines_eq with lines_eq | lines_eq <;> simp [lines_eq] at entry_distinct
  stored link mem := by
    obtain ⟨entry, entry_mem, lines_eq⟩ := linked.mem_counters.mp mem
    constructor
    · refine List.mem_flatMap.mpr ⟨entry, entry_mem, ?_⟩
      rcases lines_eq with lines_eq | lines_eq <;> simp [lines_eq]
    · refine List.mem_flatMap.mpr ⟨entry, entry_mem, ?_⟩
      rcases lines_eq with lines_eq | lines_eq <;> simp [lines_eq]

end Ledger

/-! ## Units of work -/

/-- Booking a header with lines adds its links. -/
theorem OpenLedger.linked_enter {store : OpenLedger} (linked : store.ledger.Linked)
    (header : Header) : (store.enter header).ledger.Linked where
  lengths entry mem := by
    rw [entries_enter] at mem
    rcases List.mem_append.mp mem with earlier | last
    · exact linked.lengths entry earlier
    · rw [List.mem_singleton.mp last]
      simp [nextEntry, IdSupply.drawAllocation, IdSupply.drawMany]
  counters_eq := by
    rw [entries_enter, List.reverse_append, List.reverse_singleton, List.singleton_append,
      List.flatMap_cons, ← linked.counters_eq]
    exact Ledger.counters_linkLines _ _

/-- Whatever booking headers comes to, the ledger is linked after it. -/
theorem Work.linked_bookAll {store : OpenLedger} (linked : store.ledger.Linked)
    (noted : List AllocationId) (headers : List Header) :
    ((bookAll noted headers).run store).2.ledger.Linked := by
  induction headers generalizing noted store with
  | nil => exact linked
  | cons header rest ih =>
      rw [run_bookAll_cons]
      split
      · exact linked
      · split
        · exact ih linked noted
        · exact ih (OpenLedger.linked_enter linked header) _

/-- A unit of work that books headers leaves the ledger linked, whether it stands or not. -/
theorem MemoryManager.linked_bookHeaders {manager : MemoryManager}
    (linked : manager.ledger.Linked) (headers : List Header) :
    (Run.bookHeaders headers manager).2.ledger.Linked := by
  have open_linked : (OpenLedger.mk manager.ledger manager.supply).ledger.Linked := linked
  have worked := Work.linked_bookAll open_linked [] headers
  simp only [Run.bookHeaders, TransactionManager.runAtomically, runAtomically]
  generalize (Work.bookAll [] headers).run (OpenLedger.mk manager.ledger manager.supply) = unit
    at worked ⊢
  rcases unit with ⟨⟨noted, error | stands⟩, after⟩
  · exact linked
  · exact worked

/-! ## Builds -/

namespace Run

section

variable {τ : Type} [TransactionManager τ] {property : τ → Prop}
  (kept : ∀ headers manager, property manager → property (bookHeaders headers manager).2)
  {manager : τ} (holds : property manager)

include kept holds

/-- What booking headers keeps, booking candidates keeps. -/
theorem keeps_bookUnlessDry (run : Run) (candidates : List Candidate) :
    ∃ after, (run.bookUnlessDry candidates (some manager)).2 = some after ∧ property after := by
  unfold bookUnlessDry book
  split
  · exact ⟨manager, rfl, holds⟩
  · cases run.headers candidates with
    | error error => exact ⟨manager, rfl, holds⟩
    | ok headers => exact ⟨_, rfl, kept headers manager holds⟩

theorem keeps_finish (run : Run) (progress : Progress) (events : List Event) :
    ∃ after, (run.finish progress events (some manager)).manager = some after ∧
      property after := by
  unfold finish
  cases run.raiseUnlessDry with
  | error error => exact ⟨manager, rfl, holds⟩
  | ok passed =>
      have booked := keeps_bookUnlessDry kept holds run progress.candidates
      generalize run.bookUnlessDry progress.candidates (some manager) = booking at booked ⊢
      rcases booking with ⟨error | allocations, after⟩
      · exact booked
      · exact booked

/-- A build asks its manager for nothing but to book headers, so what that keeps, a build keeps,
whatever it returns. -/
theorem keeps_build (run : Run) :
    ∃ after, (run.build (some manager)).manager = some after ∧ property after := by
  cases built : run.built with
  | true =>
      rw [build_of_built (some manager) built]
      exact ⟨manager, rfl, holds⟩
  | false =>
      rw [build_of_unbuilt (some manager) built, buildFresh]
      dsimp only
      split
      · exact ⟨manager, rfl, holds⟩
      · exact keeps_finish kept holds _ _ _

end

/-- What a manager has become after builds of runs, one after the other.  A run may have been
built before. -/
def buildEach {τ : Type} [TransactionManager τ] : List Run → τ → τ
  | [], manager => manager
  | run :: rest, manager => buildEach rest ((run.build (some manager)).manager.getD manager)

theorem linked_buildEach (runs : List Run) {manager : MemoryManager}
    (linked : manager.ledger.Linked) : (buildEach runs manager).ledger.Linked := by
  induction runs generalizing manager with
  | nil => exact linked
  | cons run rest ih =>
      have kept : ∀ (headers : List Header) (manager : MemoryManager), manager.ledger.Linked →
          (bookHeaders headers manager).2.ledger.Linked :=
        fun headers _ linked => MemoryManager.linked_bookHeaders linked headers
      obtain ⟨after, after_eq, after_linked⟩ := keeps_build kept linked run
      rw [buildEach, after_eq]
      exact ih after_linked

/-- Starting with a ledger in memory that holds nothing, whatever runs are built one after the
other and whatever comes of each, counter lines pair the two lines of a header with each other, as
long as the identifiers of the booked lines are distinct. -/
theorem buildEach_pairs_lines (runs : List Run) (limit : Option Nat) (supply : IdSupply)
    (distinct : (buildEach runs
      ({ ledger := { limit }, supply } : MemoryManager)).ledger.lineIds.Nodup) :
    (buildEach runs ({ ledger := { limit }, supply } : MemoryManager)).ledger.PairsLines :=
  (linked_buildEach runs (Ledger.linked_blank limit)).pairsLines distinct

end Run

/-- Three runs: one over the samples, one over the same documents again, and one over an invoice and
a credit memo alone. -/
def Samples.creditRuns : List Run :=
  [run, run,
    { run with
      documents :=
        { payables := [invoice 1 .sales false 10025 0 0, invoice 2 .sales true (-500) 0 0] } }]

/-- The second run comes to the limit of the ledger in the middle of its unit of work, and the
links it has set up to there are gone. -/
theorem Run.buildEach_pairs_lines_samples :
    ((buildEach Samples.creditRuns
        ({ ledger := { limit := some 7 } } : MemoryManager)).ledger.lineIds.Nodup ∧
      (buildEach Samples.creditRuns ({ ledger := { limit := some 7 } } : MemoryManager)).rollbacks =
        1) ∧
      (buildEach Samples.creditRuns
        ({ ledger := { limit := some 7 } } : MemoryManager)).ledger.PairsLines := by
  have distinct : (buildEach Samples.creditRuns
      ({ ledger := { limit := some 7 } } : MemoryManager)).ledger.lineIds.Nodup := by
    decide +kernel
  exact ⟨⟨distinct, by decide +kernel⟩,
    buildEach_pairs_lines Samples.creditRuns (some 7) {} distinct⟩

end Settlement
