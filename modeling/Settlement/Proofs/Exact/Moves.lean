import Settlement.Proofs.Exact.Trail

/-!
# Moves of a history

A move is a deal together with the book that it was made from.  Along a trail every move is made
by a well-placed step in a book later than the start, and the book that a move leaves is earlier
than those of the moves after it.  So what one move has used up cannot be used by another.
-/

namespace Settlement

/-- A deal and the book that it was made from. -/
structure Move where
  before : Book
  deal : Deal
  deriving DecidableEq, Repr

namespace Deal

/-- Deals in a row, each with the book that it was made from. -/
def moves : Book → List Deal → List Move
  | _, [] => []
  | before, deal :: rest => ⟨before, deal⟩ :: moves deal.after rest

/-- The book that deals in a row lead to. -/
def last : Book → List Deal → Book
  | before, [] => before
  | _, deal :: rest => last deal.after rest

theorem last_append (before : Book) (deals : List Deal) (deal : Deal) :
    last before (deals ++ [deal]) = deal.after := by
  induction deals generalizing before with
  | nil => rfl
  | cons first rest ih => exact ih first.after

theorem moves_append (before : Book) (deals : List Deal) (deal : Deal) :
    moves before (deals ++ [deal]) = moves before deals ++ [⟨last before deals, deal⟩] := by
  induction deals generalizing before with
  | nil => rfl
  | cons first rest ih => rw [List.cons_append, moves, moves, ih, last, List.cons_append]

end Deal

namespace History

/-- The moves of a history since its start. -/
def moves (start : Book) (history : History) : List Move := Deal.moves start history.deals

/-- The deals of a history lead from its start to its book. -/
def Reached (start : Book) (history : History) : Prop :=
  Deal.last start history.deals = history.book

theorem reached_record (start : Book) (history : History) (deal : Deal) :
    (history.record deal).Reached start :=
  Deal.last_append start history.deals deal

theorem moves_record {start : Book} {history : History} (reached : history.Reached start)
    (deal : Deal) :
    (history.record deal).moves start = history.moves start ++ [⟨history.book, deal⟩] := by
  rw [moves, record, Deal.moves_append, reached, moves]

end History

/-- What stands behind a move of a settlement: a step that is well placed in a book later than the
start makes a deal that is accepted. -/
structure Move.Made (policy : LeftoverPolicy) (start : Book) (move : Move) : Prop where
  later : Book.Later policy start move.before
  accepted : move.deal.entry.refusal? = none
  step : ∃ step, move.before.Placed step ∧ Book.Deals policy move.before step move.deal

/-- A move leaves a later book. -/
theorem Move.Made.leaves {policy : LeftoverPolicy} {start : Book} {move : Move}
    (made : move.Made policy start) : Book.Later policy move.before move.deal.after := by
  obtain ⟨step, placed, dealt⟩ := made.step
  exact dealt.later made.later.sound placed

namespace Trail

variable {policy : LeftoverPolicy} {start : Book} {history : History}

theorem reached (trail : Trail policy start history) : history.Reached start := by
  cases trail with
  | nil => rfl
  | snoc trail placed dealt accepted => exact History.reached_record start _ _

theorem moves_made (trail : Trail policy start history) (sound : start.Sound policy) :
    ∀ move ∈ history.moves start, move.Made policy start := by
  induction trail with
  | nil => simp [History.moves, Deal.moves]
  | snoc trail placed dealt accepted ih =>
      rename_i history step deal
      intro move mem
      rw [History.moves_record trail.reached, List.mem_append, List.mem_singleton] at mem
      rcases mem with earlier | rfl
      · exact ih move earlier
      · exact ⟨trail.later sound, accepted, step, placed, dealt⟩

/-- Whatever a move leaves only becomes later until the end of the trail. -/
theorem later_of_mem_moves (trail : Trail policy start history) (sound : start.Sound policy) :
    ∀ move ∈ history.moves start, Book.Later policy move.deal.after history.book := by
  induction trail with
  | nil => simp [History.moves, Deal.moves]
  | snoc trail placed dealt accepted ih =>
      rename_i history step deal
      have next := dealt.later (trail.later sound).sound placed
      intro move mem
      rw [History.moves_record trail.reached, List.mem_append, List.mem_singleton] at mem
      rcases mem with earlier | rfl
      · exact (ih move earlier).trans next
      · exact .refl next.sound

/-- A move is made from a book later than those that the moves before it have left. -/
theorem moves_later (trail : Trail policy start history) (sound : start.Sound policy) :
    (history.moves start).Pairwise fun first second =>
      Book.Later policy first.deal.after second.before := by
  induction trail with
  | nil => exact .nil
  | snoc trail placed dealt accepted ih =>
      rw [History.moves_record trail.reached, List.pairwise_append]
      refine ⟨ih, List.pairwise_singleton _ _, fun move mem last last_mem => ?_⟩
      rw [List.mem_singleton.mp last_mem]
      exact trail.later_of_mem_moves sound move mem

end Trail
end Settlement
