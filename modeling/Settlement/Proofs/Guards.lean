import Settlement.Proofs.Exact.Builds
import Settlement.Proofs.Store.Managers

/-!
# Guards of a build

A run is built once: every further build is refused.  The first build is refused when there are no
documents, and where the settings ask for it when there are several vendor documents of a kind.
These guards come before anything else, so a build that they refuse has changed neither a document
nor the manager.
-/

namespace Settlement

namespace Documents

/-- There are several vendor documents of a kind: payments made, purchase invoices and orders, or
purchase credit memos. -/
def Crowded (documents : Documents) : Prop :=
  1 < documents.payments.countP (·.direction = .outbound) ∨
    1 < documents.payables.countP (fun payable =>
      payable.side = .purchase ∧ payable.creditMemo = false) ∨
    1 < documents.payables.countP (fun payable =>
      payable.side = .purchase ∧ payable.creditMemo = true)

/-- The vendor documents that act as payments: the payments made and then the credit memos. -/
def vendorPayments (documents : Documents) : List Reference :=
  (documents.payments.filter (·.direction = .outbound)).map Payment.reference ++
    (documents.payables.filter fun payable =>
      payable.side = .purchase ∧ payable.creditMemo = true).map Payable.reference

/-- The vendor documents that are to be paid. -/
def vendorDebts (documents : Documents) : List Reference :=
  (documents.payables.filter fun payable =>
    payable.side = .purchase ∧ payable.creditMemo = false).map Payable.reference

variable {settings : Settings} {documents : Documents}

/-! ## What the guards check -/

theorem isEmpty_iff :
    documents.isEmpty = true ↔ documents.payables = [] ∧ documents.payments = [] := by
  rw [isEmpty, Bool.and_eq_true, List.isEmpty_iff, List.isEmpty_iff]

theorem outboundPayments_eq (documents : Documents) :
    documents.outboundPayments = documents.payments.filter (·.direction = .outbound) := by
  refine List.filter_congr fun payment _ => ?_
  cases payment.direction <;> rfl

theorem vendorCreditMemos_eq (documents : Documents) :
    documents.vendorCreditMemos = documents.payables.filter fun payable =>
      payable.side = .purchase ∧ payable.creditMemo = true := by
  refine List.filter_congr fun payable _ => ?_
  cases payable.side <;> cases payable.creditMemo <;> rfl

theorem vendorPayables_eq (documents : Documents) :
    documents.vendorPayables = documents.payables.filter fun payable =>
      payable.side = .purchase ∧ payable.creditMemo = false := by
  refine List.filter_congr fun payable _ => ?_
  cases payable.side <;> cases payable.creditMemo <;> rfl

/-- Vendor documents are refused where they are crowded. -/
theorem checkVendorDocuments_eq (documents : Documents) [Decidable documents.Crowded] :
    documents.checkVendorDocuments =
      if documents.Crowded then
        .error (.multipleVendorDocuments documents.vendorPayments documents.vendorDebts)
      else
        .ok () := by
  rw [checkVendorDocuments, outboundPayments_eq, vendorPayables_eq, vendorCreditMemos_eq]
  simp only [Crowded, List.countP_eq_length_filter]
  rfl

theorem check_eq_noDocuments_iff :
    documents.check settings = .error .noDocuments ↔
      documents.payables = [] ∧ documents.payments = [] := by
  classical
  rw [check, checkVendorDocuments_eq, ← isEmpty_iff]
  constructor
  · intro refused
    split_ifs at refused with empty guarded crowded
    · exact empty
    · cases refused
  · exact fun empty => if_pos empty

theorem check_eq_multipleVendorDocuments_iff {payments payables : List Reference} :
    documents.check settings = .error (.multipleVendorDocuments payments payables) ↔
      ¬(documents.payables = [] ∧ documents.payments = []) ∧
        settings.onlyOneVendorDocument = true ∧ documents.Crowded ∧
          payments = documents.vendorPayments ∧ payables = documents.vendorDebts := by
  classical
  rw [check, checkVendorDocuments_eq, ← isEmpty_iff]
  constructor
  · intro refused
    split_ifs at refused with empty guarded crowded
    · cases refused
    · cases refused
      exact ⟨empty, guarded, crowded, rfl, rfl⟩
  · rintro ⟨some_documents, guarded, crowded, rfl, rfl⟩
    rw [if_neg some_documents, if_pos guarded, if_pos crowded]

end Documents

/-- A build has changed nothing: its documents and its manager are the given ones, and nothing has
been recorded. -/
structure Build.Spares {τ : Type} (documents : Documents) (manager : Option τ) (build : Build τ) :
    Prop where
  documents_eq : build.run.documents = documents
  manager_eq : build.manager = manager
  unposted : build.postings = []

namespace Run

variable {τ : Type} [TransactionManager τ] {run : Run} {manager : Option τ}
  {error : AllocationError}

/-! ## The first build -/

/-- A build that its guards refuse has changed nothing. -/
theorem build_of_refused (manager : Option τ) (unbuilt : run.built = false)
    (refused : run.documents.check run.settings = .error error) :
    (run.build manager).result = .error (.refused error) ∧
      (run.build manager).Spares run.documents manager := by
  rw [build_of_unbuilt manager unbuilt, buildFresh, Documents.settle, refused]
  exact ⟨rfl, rfl, rfl, rfl⟩

/-- After matching, no build is refused with an error of the guards. -/
theorem finish_unguarded [LawfulManager τ] (run : Run) (progress : Progress)
    (events : List Event) (manager : Option τ) :
    FailsOnly (∀ error, · = .refused error → error.stage ≠ .guards)
      (run.finish progress events manager).result := by
  have booked : FailsOnly (·.stage ≠ .guards)
      (run.bookUnlessDry progress.candidates manager).1 := by
    refine failsOnly_bookUnlessDry manager ?_ (fun _ => Stage.noConfusion)
      fun _ => Stage.noConfusion
    refine run.failsOnly_headers (fun _ => Stage.noConfusion) fun candidate _ error failed => ?_
    rw [failsOnly_linesFor candidate error failed]
    exact Stage.noConfusion
  unfold finish
  cases raised : run.raiseUnlessDry with
  | error error =>
      refine failsOnly_error fun found same => ?_
      obtain rfl := Failure.refused.inj same
      rw [run.failsOnly_raiseUnlessDry error raised]
      exact Stage.noConfusion
  | ok passed =>
      generalize run.bookUnlessDry progress.candidates manager = booking at booked ⊢
      rcases booking with ⟨error | allocations, after⟩
      · refine failsOnly_error fun found same => ?_
        obtain rfl := Failure.refused.inj same
        exact booked error rfl
      · exact failsOnly_ok _

/-- An error of the guards refuses a build exactly when the documents do not pass them. -/
theorem result_eq_guard_iff [LawfulManager τ] (unbuilt : run.built = false)
    (guarded : error.stage = .guards) :
    (run.build manager).result = .error (.refused error) ↔
      run.documents.check run.settings = .error error := by
  constructor
  · intro refused
    rw [build_of_unbuilt manager unbuilt, buildFresh] at refused
    cases settled : run.documents.settle run.settings with
    | mk progress failure? =>
        simp only [settled] at refused
        cases failure? with
        | some failure =>
            obtain rfl := Except.error.inj refused
            exact Documents.check_of_stopped (congrArg Prod.snd settled) guarded
        | none => exact absurd guarded (finish_unguarded _ progress _ manager _ refused error rfl)
  · exact fun refused => (build_of_refused manager unbuilt refused).1

theorem result_ne_alreadyBuilt [LawfulManager τ] (unbuilt : run.built = false) :
    (run.build manager).result ≠ .error (.refused .alreadyBuilt) := by
  intro refused
  have checked := (result_eq_guard_iff unbuilt rfl).mp refused
  classical
  rw [Documents.check, Documents.checkVendorDocuments_eq] at checked
  split_ifs at checked
  · cases checked
  · cases checked

/-! ## Further builds -/

theorem length_buildTimes (times : Nat) (run : Run) (manager : Option τ) :
    (run.buildTimes times manager).length = times := by
  induction times generalizing run manager with
  | zero => rfl
  | succ times ih => rw [buildTimes, List.length_cons, ih]

/-- Every build of a run that has been built is refused and changes nothing. -/
theorem mem_buildTimes_of_built (times : Nat) (built : run.built = true) {build : Build τ}
    (mem : build ∈ run.buildTimes times manager) :
    build.result = .error (.refused .alreadyBuilt) ∧ build.Spares run.documents manager := by
  induction times with
  | zero => cases mem
  | succ times ih =>
      rw [buildTimes, build_of_built manager built] at mem
      rcases List.mem_cons.mp mem with rfl | later
      · exact ⟨rfl, rfl, rfl, rfl⟩
      · exact ih later

/-- However often a run is built, only the first build can change a document or ask the manager
for anything: every later one is refused as built already.  The first build is refused for want of
documents exactly when there are none, and for several vendor documents of a kind exactly when that
is guarded and there are, with all of them named in order.  Whichever guard refuses a build, the
documents and the manager, of whatever kind it is, are as they were. -/
theorem build_guarded [LawfulManager τ] (run : Run) (manager : Option τ)
    (unbuilt : run.built = false) :
    (∀ times, ∃ later, run.buildTimes (times + 1) manager = run.build manager :: later ∧
        later.length = times ∧
        ∀ build ∈ later, build.result = .error (.refused .alreadyBuilt) ∧
          build.Spares (run.build manager).run.documents (run.build manager).manager) ∧
      (run.build manager).result ≠ .error (.refused .alreadyBuilt) ∧
      ((run.build manager).result = .error (.refused .noDocuments) ↔
        run.documents.payables = [] ∧ run.documents.payments = []) ∧
      (∀ payments payables,
        (run.build manager).result =
            .error (.refused (.multipleVendorDocuments payments payables)) ↔
          ¬(run.documents.payables = [] ∧ run.documents.payments = []) ∧
            run.settings.onlyOneVendorDocument = true ∧ run.documents.Crowded ∧
              payments = run.documents.vendorPayments ∧ payables = run.documents.vendorDebts) ∧
      ∀ error, error.stage = .guards → (run.build manager).result = .error (.refused error) →
        (run.build manager).Spares run.documents manager := by
  refine ⟨fun times => ?_, result_ne_alreadyBuilt unbuilt, ?_, fun payments payables => ?_, ?_⟩
  · have built : (run.build manager).run.built = true := by rw [run_build]
    exact ⟨_, rfl, length_buildTimes times _ _, fun build mem =>
      mem_buildTimes_of_built times built mem⟩
  · exact (result_eq_guard_iff unbuilt rfl).trans Documents.check_eq_noDocuments_iff
  · exact (result_eq_guard_iff unbuilt rfl).trans
      Documents.check_eq_multipleVendorDocuments_iff
  · intro error guarded refused
    exact (build_of_refused manager unbuilt ((result_eq_guard_iff unbuilt guarded).mp refused)).2

end Run

/-- A run over three purchase documents to be paid or credited and two payments made, with a sale
and a payment received in between. -/
def Samples.crowdedRun : Run where
  documents :=
    { payables :=
        [invoice 1 .purchase false (-2000) 0 0, invoice 2 .sales false 10025 200 0,
          invoice 3 .purchase true 500 0 0, invoice 4 .purchase false (-1000) 0 0]
      payments := [payment 5 .outbound 1500, payment 6 .inbound 6075, payment 7 .outbound 700] }
  settings := { onlyOneVendorDocument := true }

/-- The run is refused for two payments made and two purchase invoices; a second and a third build
are refused as built already. -/
theorem Run.build_guarded_crowded :
    LawfulManager MemoryManager ∧ Samples.crowdedRun.built = false ∧
      (Samples.crowdedRun.build (some ({} : MemoryManager))).result =
        .error (.refused (.multipleVendorDocuments
          [.payment (.ofNat 5), .payment (.ofNat 7), .invoice (.ofNat 3)]
          [.invoice (.ofNat 1), .invoice (.ofNat 4)])) ∧
      (Samples.crowdedRun.build (some ({} : MemoryManager))).Spares
        Samples.crowdedRun.documents (some {}) ∧
      ∃ later, Samples.crowdedRun.buildTimes 3 (some ({} : MemoryManager)) =
          Samples.crowdedRun.build (some {}) :: later ∧
        later.length = 2 ∧
        ∀ build ∈ later, build.result = .error (.refused .alreadyBuilt) ∧
          build.Spares Samples.crowdedRun.documents (some {}) := by
  have unbuilt : Samples.crowdedRun.built = false := rfl
  obtain ⟨sequence, -, -, crowded_iff, spared⟩ :=
    build_guarded Samples.crowdedRun (some ({} : MemoryManager)) unbuilt
  have some_documents : ¬(Samples.crowdedRun.documents.payables = [] ∧
      Samples.crowdedRun.documents.payments = []) := by
    rintro ⟨no_payables, -⟩
    cases no_payables
  have crowded : Samples.crowdedRun.documents.Crowded := .inl (by decide)
  have refused := (crowded_iff _ _).mpr ⟨some_documents, rfl, crowded, rfl, rfl⟩
  have spares := spared _ rfl refused
  have later := sequence 2
  rw [spares.documents_eq, spares.manager_eq] at later
  exact ⟨inferInstance, unbuilt, refused, spares, later⟩

end Settlement
