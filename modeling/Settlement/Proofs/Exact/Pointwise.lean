import Mathlib.Data.List.Forall2
import Mathlib.Data.Option.Defs

/-!
# Lists related entry by entry

Two states of a list of documents are compared place by place.  The facts here carry such a
comparison through a change at one place, a chain of changes and a look-up.
-/

namespace Settlement

variable {α β : Type} {relation : α → β → Prop} {before : List α} {after : List β}

/-- A list with one entry changed is related to itself where all of its entries are. -/
theorem forall₂_modify {relation : α → α → Prop} {entries : List α} {index : Nat}
    {change : α → α} (same : ∀ entry ∈ entries, relation entry entry)
    (changed : ∀ entry, entries[index]? = some entry → relation entry (change entry)) :
    List.Forall₂ relation entries (entries.modify index change) := by
  induction entries generalizing index with
  | nil => simp
  | cons entry entries ih =>
      have rest_same : ∀ other ∈ entries, relation other other :=
        fun other mem => same other (by simp [mem])
      cases index with
      | zero =>
          rw [List.modify_zero_cons]
          exact .cons (changed entry rfl) (List.forall₂_same.mpr rest_same)
      | succ index =>
          rw [List.modify_succ_cons]
          exact .cons (same entry (by simp))
            (ih rest_same fun other other_eq => changed other other_eq)

theorem forall₂_trans {relation : α → α → Prop} {first second third : List α}
    (step : ∀ left middle right, relation left middle → relation middle right →
      relation left right)
    (early : List.Forall₂ relation first second) (late : List.Forall₂ relation second third) :
    List.Forall₂ relation first third := by
  induction early generalizing third with
  | nil => exact late
  | cons head _ ih =>
      cases late with
      | cons late_head late_rest => exact .cons (step _ _ _ head late_head) (ih late_rest)

/-- Entries related in two ways are related in both. -/
theorem forall₂_and {relation' : α → β → Prop} (related : List.Forall₂ relation before after)
    (related' : List.Forall₂ relation' before after) :
    List.Forall₂ (fun left right => relation left right ∧ relation' left right) before after := by
  induction related with
  | nil => exact .nil
  | cons head _ ih =>
      cases related' with
      | cons head' rest' => exact .cons ⟨head, head'⟩ (ih rest')

/-- A list with one entry put in stays related where the new entries are. -/
theorem forall₂_set (related : List.Forall₂ relation before after) (index : Nat) {left : α}
    {right : β} (same : relation left right) :
    List.Forall₂ relation (before.set index left) (after.set index right) := by
  induction related generalizing index with
  | nil => exact .nil
  | cons head rest ih =>
      cases index with
      | zero => exact .cons same rest
      | succ index => exact .cons head (ih index)

theorem forall₂_isEmpty (related : List.Forall₂ relation before after) :
    before.isEmpty = after.isEmpty := by
  cases related with
  | nil => rfl
  | cons head rest => rfl

/-- Related entries that agree on a property are kept together. -/
theorem forall₂_filter {property : α → Bool} {property' : β → Bool}
    (related : List.Forall₂ relation before after)
    (agree : ∀ left right, relation left right → property left = property' right) :
    List.Forall₂ relation (before.filter property) (after.filter property') :=
  List.rel_filter (fun _ _ same => iff_of_eq (congrArg (· = true) (agree _ _ same))) related

/-- At every place there are related entries, or none. -/
theorem forall₂_rel (related : List.Forall₂ relation before after) (index : Nat) :
    Option.Rel relation before[index]? after[index]? := by
  induction related generalizing index with
  | nil => exact .none
  | cons head rest ih =>
      cases index with
      | zero => exact .some head
      | succ index => exact ih index

/-- Every entry has a related one at its place. -/
theorem forall₂_getElem? (related : List.Forall₂ relation before after) {index : Nat} {left : α}
    (left_eq : before[index]? = some left) :
    ∃ right, after[index]? = some right ∧ relation left right := by
  obtain ⟨bound, rfl⟩ := List.getElem?_eq_some_iff.mp left_eq
  have bound_after : index < after.length := related.length_eq ▸ bound
  exact ⟨after[index], List.getElem?_eq_getElem bound_after, related.get bound bound_after⟩

/-- Every entry is related to one at its place. -/
theorem forall₂_getElem?_right (related : List.Forall₂ relation before after) {index : Nat}
    {right : β} (right_eq : after[index]? = some right) :
    ∃ left, before[index]? = some left ∧ relation left right :=
  forall₂_getElem? related.flip right_eq

/-- Entries at one place are related. -/
theorem forall₂_at (related : List.Forall₂ relation before after) {index : Nat} {left : α}
    {right : β} (left_eq : before[index]? = some left) (right_eq : after[index]? = some right) :
    relation left right := by
  obtain ⟨found, found_eq, holds⟩ := forall₂_getElem? related left_eq
  rwa [Option.some.inj (right_eq.symm.trans found_eq)]

theorem forall₂_mem_right (related : List.Forall₂ relation before after) {right : β}
    (mem : right ∈ after) : ∃ left ∈ before, relation left right := by
  obtain ⟨index, right_eq⟩ := List.mem_iff_getElem?.mp mem
  obtain ⟨left, left_eq, holds⟩ := forall₂_getElem?_right related right_eq
  exact ⟨left, List.mem_of_getElem? left_eq, holds⟩

/-- A comparison of what entries are read as is one of the entries themselves. -/
theorem forall₂_of_map {γ δ : Type} {relation : γ → δ → Prop} {relation' : α → β → Prop}
    {read : α → γ} {read' : β → δ}
    (related : List.Forall₂ relation (before.map read) (after.map read'))
    (weaker : ∀ left ∈ before, ∀ right ∈ after, relation (read left) (read' right) →
      relation' left right) : List.Forall₂ relation' before after := by
  rw [List.forall₂_map_left_iff, List.forall₂_map_right_iff] at related
  induction related with
  | nil => exact .nil
  | cons head rest ih =>
      refine .cons (weaker _ (by simp) _ (by simp) head)
        (ih fun left left_mem right right_mem => ?_)
      exact weaker left (by simp [left_mem]) right (by simp [right_mem])

/-- Lists that are read alike are read alike entry by entry. -/
theorem forall₂_of_map_eq {γ : Type} {read : α → γ} {before after : List α}
    (same : before.map read = after.map read) :
    List.Forall₂ (fun left right => left ∈ before ∧ right ∈ after ∧ read left = read right)
      before after := by
  rw [← List.forall₂_eq_eq_eq] at same
  exact forall₂_of_map same fun left left_mem right right_mem read_eq =>
    ⟨left_mem, right_mem, read_eq⟩

/-- Related entries that agree on a feature give lists that agree on it. -/
theorem forall₂_map_eq {γ : Type} {relation : α → α → Prop} {feature : α → γ}
    {before after : List α} (related : List.Forall₂ relation before after)
    (agree : ∀ left right, relation left right → feature right = feature left) :
    after.map feature = before.map feature := by
  induction related with
  | nil => rfl
  | cons head _ ih => rw [List.map_cons, List.map_cons, agree _ _ head, ih]

/-- Two lists come to the same when what stands at each place does. -/
theorem map_eq_map {γ : Type} {feature : α → γ} {feature' : β → γ}
    (length_eq : before.length = after.length)
    (agree : ∀ (place : Nat) (left : α), before[place]? = some left →
      ∃ right, after[place]? = some right ∧ feature' right = feature left) :
    after.map feature' = before.map feature := by
  refine List.ext_getElem? fun place => ?_
  rw [List.getElem?_map, List.getElem?_map]
  cases left_eq : before[place]? with
  | none =>
      rw [List.getElem?_eq_none_iff] at left_eq
      rw [List.getElem?_eq_none (length_eq ▸ left_eq)]
      rfl
  | some left =>
      obtain ⟨right, right_eq, same⟩ := agree place left left_eq
      rw [right_eq, Option.map_some, Option.map_some, same]

/-- Where no feature comes twice, entries with one feature are at one place. -/
theorem place_eq_iff {feature : α → β} {entries : List α}
    (distinct : (entries.map feature).Nodup) {index other : Nat} {left right : α}
    (left_eq : entries[index]? = some left) (right_eq : entries[other]? = some right) :
    feature left = feature right ↔ index = other := by
  have bound : index < (entries.map feature).length := by
    rw [List.length_map]
    exact (List.getElem?_eq_some_iff.mp left_eq).1
  rw [← List.getElem?_inj bound distinct, List.getElem?_map, List.getElem?_map, left_eq, right_eq,
    Option.map_some, Option.map_some, Option.some.injEq]

/-- A list with an entry put in its place is read as the list with the change made there. -/
theorem map_set_eq_modify (read : α → β) {entries : List α} {index : Nat} {entry changed : α}
    {change : β → β} (entry_eq : entries[index]? = some entry)
    (changed_eq : read changed = change (read entry)) :
    (entries.set index changed).map read = (entries.map read).modify index change := by
  obtain ⟨bound, rfl⟩ := List.getElem?_eq_some_iff.mp entry_eq
  apply List.ext_getElem?
  intro other
  rw [List.getElem?_map, List.getElem?_modify, List.getElem?_set, List.getElem?_map]
  by_cases same : index = other
  · subst same
    simp [bound, changed_eq]
  · simp [same]

end Settlement
