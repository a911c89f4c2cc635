import Settlement.Matching.Pass
import Settlement.Proofs.Exact.Pointwise

/-!
# Positions among kept entries

Entries that are kept of a list come to stand at other places.  Looking one up, changing it and
selecting among them is the same in the kept list as in the whole one.
-/

namespace Settlement

variable {α : Type} {keep : α → Bool} {entries : List α} {index position : Nat}

/-- Where an entry stands among the kept ones, if it is kept. -/
def position? (keep : α → Bool) : List α → Nat → Option Nat
  | [], _ => none
  | entry :: _, 0 => if keep entry then some 0 else none
  | entry :: rest, index + 1 =>
      if keep entry then (position? keep rest index).map (· + 1) else position? keep rest index

/-- An entry that is kept stands at its position. -/
theorem getElem?_of_position (position_eq : position? keep entries index = some position) :
    ∃ entry, entries[index]? = some entry ∧ keep entry = true ∧
      (entries.filter keep)[position]? = some entry := by
  fun_induction position? keep entries index generalizing position with
  | case1 | case3 => cases position_eq
  | case2 first rest kept =>
      cases position_eq
      rw [List.filter_cons_of_pos kept]
      exact ⟨first, rfl, kept, rfl⟩
  | case4 first rest index kept ih =>
      obtain ⟨before, before_eq, rfl⟩ := Option.map_eq_some_iff.mp position_eq
      rw [List.filter_cons_of_pos kept]
      exact ih before_eq
  | case5 first rest index dropped ih =>
      rw [List.filter_cons_of_neg dropped]
      exact ih position_eq

/-- An entry without a position is not kept. -/
theorem dropped_of_position (position_eq : position? keep entries index = none) {entry : α}
    (entry_eq : entries[index]? = some entry) : keep entry = false := by
  fun_induction position? keep entries index with
  | case1 => cases entry_eq
  | case2 => cases position_eq
  | case3 first rest dropped =>
      cases entry_eq
      exact Bool.eq_false_iff.mpr dropped
  | case4 first rest index kept ih => exact ih (Option.map_eq_none_iff.mp position_eq) entry_eq
  | case5 first rest index dropped ih => exact ih position_eq entry_eq

/-- An entry that is not kept has no position. -/
theorem position?_eq_none {entry : α} (entry_eq : entries[index]? = some entry)
    (dropped : keep entry = false) : position? keep entries index = none := by
  cases position_eq : position? keep entries index with
  | none => rfl
  | some position =>
      obtain ⟨found, found_eq, kept, -⟩ := getElem?_of_position position_eq
      cases entry_eq.symm.trans found_eq
      exact absurd kept (Bool.eq_false_iff.mp dropped)

/-- An entry put in the place of a kept one is put at its position. -/
theorem filter_set_of_position (position_eq : position? keep entries index = some position)
    {entry : α} (kept : keep entry = true) :
    (entries.set index entry).filter keep = (entries.filter keep).set position entry := by
  fun_induction position? keep entries index generalizing position with
  | case1 | case3 => cases position_eq
  | case2 first rest first_kept =>
      cases position_eq
      rw [List.set_cons_zero, List.filter_cons_of_pos kept, List.filter_cons_of_pos first_kept,
        List.set_cons_zero]
  | case4 first rest index first_kept ih =>
      obtain ⟨before, before_eq, rfl⟩ := Option.map_eq_some_iff.mp position_eq
      rw [List.set_cons_succ, List.filter_cons_of_pos first_kept,
        List.filter_cons_of_pos first_kept, List.set_cons_succ, ih before_eq]
  | case5 first rest index first_dropped ih =>
      rw [List.set_cons_succ, List.filter_cons_of_neg first_dropped,
        List.filter_cons_of_neg first_dropped, ih position_eq]

/-- An entry put in the place of one that is not kept is not noticed, if it is not kept either. -/
theorem filter_set_of_dropped (position_eq : position? keep entries index = none) {entry : α}
    (dropped : keep entry = false) :
    (entries.set index entry).filter keep = entries.filter keep := by
  fun_induction position? keep entries index with
  | case1 => rfl
  | case2 => cases position_eq
  | case3 first rest first_dropped =>
      rw [List.set_cons_zero, List.filter_cons_of_neg (Bool.eq_false_iff.mp dropped),
        List.filter_cons_of_neg first_dropped]
  | case4 first rest index first_kept ih =>
      rw [List.set_cons_succ, List.filter_cons_of_pos first_kept,
        List.filter_cons_of_pos first_kept, ih (Option.map_eq_none_iff.mp position_eq)]
  | case5 first rest index first_dropped ih =>
      rw [List.set_cons_succ, List.filter_cons_of_neg first_dropped,
        List.filter_cons_of_neg first_dropped, ih position_eq]

/-- An entry that is kept and changed stays kept, and its change is one at its position. -/
theorem filter_modify_of_position (position_eq : position? keep entries index = some position)
    {change : α → α} (keeps : ∀ entry, keep (change entry) = keep entry) :
    (entries.modify index change).filter keep = (entries.filter keep).modify position change := by
  obtain ⟨entry, entry_eq, kept, found⟩ := getElem?_of_position position_eq
  rw [List.modify_eq_set_getElem?, List.modify_eq_set_getElem?, entry_eq, found]
  exact filter_set_of_position position_eq ((keeps entry).trans kept)

/-- A change of an entry that is not kept is not noticed. -/
theorem filter_modify_of_dropped (position_eq : position? keep entries index = none)
    {change : α → α} (keeps : ∀ entry, keep (change entry) = keep entry) :
    (entries.modify index change).filter keep = entries.filter keep := by
  rw [List.modify_eq_set_getElem?]
  cases entry_eq : entries[index]? with
  | none => rfl
  | some entry =>
      have dropped := dropped_of_position position_eq entry_eq
      exact filter_set_of_dropped position_eq ((keeps entry).trans dropped)

/-- Positions only depend on which entries are kept. -/
theorem position?_congr {entries' : List α} {related : α → α → Prop}
    (same : List.Forall₂ related entries entries')
    (agree : ∀ left right, related left right → keep left = keep right) (index : Nat) :
    position? keep entries index = position? keep entries' index := by
  induction same generalizing index with
  | nil => rfl
  | cons head rest ih =>
      cases index with
      | zero => rw [position?, position?, agree _ _ head]
      | succ index => rw [position?, position?, agree _ _ head, ih index]

/-! ## Selected places -/

theorem places_cons (property : α → Bool) (entry : α) (rest : List α) :
    places property (entry :: rest) =
      (if property entry then [0] else []) ++ (places property rest).map (· + 1) := by
  have first : ((entry :: rest)[0]?.any property) = property entry := rfl
  have later : ((fun index => (entry :: rest)[index]?.any property) ∘ Nat.succ) =
      fun index => rest[index]?.any property := by
    funext index
    rfl
  rw [places, List.length_cons, List.range_succ_eq_map, List.filter_cons, List.filter_map, first,
    later]
  split
  · rfl
  · rfl

theorem places_true (entries : List α) :
    places (fun _ => true) entries = List.range entries.length := by
  rw [places, List.filter_eq_self]
  intro index mem
  rw [List.getElem?_eq_getElem (List.mem_range.mp mem), Option.any_some]

/-- The places of the kept entries stand at all positions, one after the other. -/
theorem forall₂_places (keep : α → Bool) (entries : List α) :
    List.Forall₂ (fun index position => position? keep entries index = some position)
      (places keep entries) (List.range (entries.filter keep).length) := by
  induction entries with
  | nil => exact .nil
  | cons entry rest ih =>
      rw [places_cons]
      by_cases kept : keep entry = true
      · rw [List.filter_cons_of_pos kept, List.length_cons, List.range_succ_eq_map, if_pos kept,
          List.singleton_append]
        refine .cons (if_pos kept) ?_
        rw [List.forall₂_map_left_iff, List.forall₂_map_right_iff]
        refine ih.imp fun index position position_eq => ?_
        rw [position?, if_pos kept, position_eq]
        rfl
      · rw [List.filter_cons_of_neg kept, if_neg kept, List.nil_append,
          List.forall₂_map_left_iff]
        refine ih.imp fun index position position_eq => ?_
        rw [position?, if_neg kept, position_eq]

/-- The places selected among the kept entries are the positions of those selected in the whole
list. -/
theorem places_filter (property keep : α → Bool) (entries : List α) :
    places property (entries.filter keep) =
      (places property entries).filterMap (position? keep entries) := by
  induction entries with
  | nil => rfl
  | cons entry rest ih =>
      rw [places_cons, List.filterMap_append, List.filterMap_map]
      by_cases kept : keep entry = true
      · have first : position? keep (entry :: rest) 0 = some 0 := if_pos kept
        have later : position? keep (entry :: rest) ∘ (· + 1) =
            fun index => (position? keep rest index).map (· + 1) := by
          funext index
          exact if_pos kept
        rw [List.filter_cons_of_pos kept, places_cons, ih, later, ← List.map_filterMap]
        congr 1
        split
        · rw [List.filterMap_cons_some first, List.filterMap_nil]
        · rfl
      · have first : position? keep (entry :: rest) 0 = none := if_neg kept
        have later : position? keep (entry :: rest) ∘ (· + 1) = position? keep rest := by
          funext index
          exact if_neg kept
        rw [List.filter_cons_of_neg kept, ih, later]
        split
        · rw [List.filterMap_cons_none first, List.filterMap_nil, List.nil_append]
        · rw [List.filterMap_nil, List.nil_append]

end Settlement
