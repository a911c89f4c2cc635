import Settlement.Matching.Step

/-!
# Outcomes that agree

Two computations agree when both fail in the same way or both succeed with related values.  Two
changes agree when they are cut short alike and leave related objects, and two settlements when
they are stopped alike.  What is put together from agreeing parts agrees.
-/

namespace Settlement

/-! ## Computations -/

theorem map_eq_ok {ε α β : Type} {computed : Except ε α} {change : α → β} {result : β} :
    change <$> computed = .ok result ↔ ∃ value, computed = .ok value ∧ change value = result := by
  cases computed with
  | error error => exact ⟨nofun, nofun⟩
  | ok value =>
      constructor
      · intro done
        cases done
        exact ⟨value, rfl, rfl⟩
      · rintro ⟨_, same, rfl⟩
        cases same
        rfl

theorem orBroken_eq_ok {α : Type} {computed : Except Fault α} {value : α} :
    orBroken computed = .ok value ↔ computed = .ok value := by
  cases computed with
  | error fault => exact ⟨nofun, nofun⟩
  | ok found => exact ⟨fun done => by cases done; rfl, fun done => by cases done; rfl⟩

theorem orRefused_eq_ok {α : Type} {computed : Except AllocationError α} {value : α} :
    orRefused computed = .ok value ↔ computed = .ok value := by
  cases computed with
  | error error => exact ⟨nofun, nofun⟩
  | ok found => exact ⟨fun done => by cases done; rfl, fun done => by cases done; rfl⟩

/-- Both computations fail with one error, or both succeed with related values. -/
inductive SameOutcome {ε α β : Type} (related : α → β → Prop) :
    Except ε α → Except ε β → Prop where
  | failed (error : ε) : SameOutcome related (.error error) (.error error)
  | done {left : α} {right : β} (same : related left right) :
      SameOutcome related (.ok left) (.ok right)

namespace SameOutcome

variable {ε α β γ δ : Type} {related : α → β → Prop} {related' : γ → δ → Prop}
  {left : Except ε α} {right : Except ε β}

theorem refl (computed : Except ε α) : SameOutcome (· = ·) computed computed := by
  cases computed with
  | error error => exact .failed error
  | ok value => exact .done rfl

/-- A computation agrees with itself on the value that it gives, if any. -/
theorem self (computed : Except ε α) :
    SameOutcome (fun value value' => value = value' ∧ computed = .ok value) computed computed := by
  cases computed with
  | error error => exact .failed error
  | ok value => exact .done ⟨rfl, rfl⟩

theorem bind {next : α → Except ε γ} {next' : β → Except ε δ}
    (same : SameOutcome related left right)
    (rest : ∀ value value', related value value' →
      SameOutcome related' (next value) (next' value')) :
    SameOutcome related' (left >>= next) (right >>= next') := by
  cases same with
  | failed error => exact .failed error
  | done same => exact rest _ _ same

theorem map {change : α → γ} {change' : β → δ} (same : SameOutcome related left right)
    (rest : ∀ value value', related value value' → related' (change value) (change' value')) :
    SameOutcome related' (change <$> left) (change' <$> right) := by
  cases same with
  | failed error => exact .failed error
  | done same => exact .done (rest _ _ same)

theorem orBroken {left : Except Fault α} {right : Except Fault β}
    (same : SameOutcome related left right) :
    SameOutcome related (orBroken left) (orBroken right) := by
  cases same with
  | failed fault => exact .failed _
  | done same => exact .done same

theorem orRefused {left : Except AllocationError α} {right : Except AllocationError β}
    (same : SameOutcome related left right) :
    SameOutcome related (orRefused left) (orRefused right) := by
  cases same with
  | failed error => exact .failed _
  | done same => exact .done same

end SameOutcome

/-! ## Changes -/

namespace Attempt

/-- Both changes leave related objects, and one fault or none has cut them short. -/
structure Same {α β : Type} (related : α → β → Prop) (left : Attempt α) (right : Attempt β) :
    Prop where
  after : related left.after right.after
  fault?_eq : left.fault? = right.fault?

variable {α β γ δ : Type} {related : α → β → Prop} {related' : γ → δ → Prop}

theorem Same.map {left : Attempt α} {right : Attempt β} {wrap : α → γ} {wrap' : β → δ}
    (same : left.Same related right)
    (rest : ∀ object object', related object object' →
      related' (wrap object) (wrap' object')) :
    (left.map wrap).Same related' (right.map wrap') :=
  ⟨rest _ _ same.after, same.fault?_eq⟩

theorem Same.andThen {left : Attempt α} {right : Attempt β} {next : α → Attempt α}
    {next' : β → Attempt β} (same : left.Same related right)
    (rest : ∀ object object', related object object' →
      (next object).Same related (next' object')) :
    (left.andThen next).Same related (right.andThen next') := by
  obtain ⟨left_after, fault?⟩ := left
  obtain ⟨right_after, fault?'⟩ := right
  obtain ⟨after, fault?_eq⟩ := same
  dsimp only at after fault?_eq
  subst fault?_eq
  cases fault? with
  | none => exact rest _ _ after
  | some fault => exact ⟨after, rfl⟩

theorem Same.assign {left : α} {right : β} {computed : Except Fault γ} {computed' : Except Fault δ}
    {put : γ → α} {put' : δ → β} (before : related left right)
    (same : SameOutcome related' computed computed')
    (rest : ∀ value value', related' value value' → related (put value) (put' value')) :
    (Attempt.assign left computed put).Same related (Attempt.assign right computed' put') := by
  cases same with
  | failed fault => exact ⟨before, rfl⟩
  | done same => exact ⟨rest _ _ same, rfl⟩

/-- What holds of an object before and after a value is put into it holds in either case. -/
theorem holds_assign {property : α → Prop} {object : α} {computed : Except Fault β} {put : β → α}
    (before : property object) (after : ∀ value, computed = .ok value → property (put value)) :
    property (assign object computed put).after := by
  cases computed with
  | error fault => exact before
  | ok value => exact after value rfl

/-- What both changes keep holds after one or both of them. -/
theorem holds_andThen (property : α → Prop) {attempt : Attempt α} {next : α → Attempt α}
    (first : property attempt.after)
    (rest : ∀ object, property object → property (next object).after) :
    property (attempt.andThen next).after := by
  unfold andThen
  split
  · exact rest _ first
  · exact first

end Attempt

/-! ## Settlements -/

namespace Progress

theorem proceed_of_ended {advance : Advance} (ended : advance.2 = none)
    (next : Progress → Advance) : proceed advance next = next advance.1 := by
  obtain ⟨progress, failure?⟩ := advance
  cases ended
  rfl

/-- What a settlement keeps holds as far as it comes. -/
theorem holds_proceed (property : Progress → Prop) {advance : Advance}
    {next : Progress → Advance} (first : property advance.1)
    (rest : ∀ progress, property progress → property (next progress).1) :
    property (proceed advance next).1 := by
  obtain ⟨progress, failure?⟩ := advance
  cases failure? with
  | none => exact rest progress first
  | some failure => exact first

/-- Both settlements have come to related progress, and one failure or none has stopped them. -/
structure SameAdvance (related : Progress → Progress → Prop) (left right : Advance) : Prop where
  progress : related left.1 right.1
  failure?_eq : left.2 = right.2

variable {related : Progress → Progress → Prop}

theorem SameAdvance.proceed {left right : Advance} {next next' : Progress → Advance}
    (same : SameAdvance related left right)
    (rest : ∀ progress progress', related progress progress' →
      SameAdvance related (next progress) (next' progress')) :
    SameAdvance related (proceed left next) (proceed right next') := by
  obtain ⟨progress, failure?⟩ := left
  obtain ⟨progress', failure?'⟩ := right
  obtain ⟨reached, rfl⟩ := same
  cases failure? with
  | none => exact rest _ _ reached
  | some failure => exact ⟨reached, rfl⟩

end Progress
end Settlement
