/-!
# Types written as one word

A type with finitely many values, each of which is written as a word of its own.  Reading a word
back gives the value it was written for.
-/

namespace Settlement

/-- A type whose values are written as words. -/
class Worded (α : Type) where
  /-- Every value. -/
  all : List α
  /-- The word for a value. -/
  word : α → String
  /-- No value is missing. -/
  mem_all : ∀ value, value ∈ all
  /-- No two values share a word. -/
  word_injective : ∀ left right, word left = word right → left = right

export Worded (word)

/-- The value with a word, in exactly this spelling. -/
def ofWord? {α : Type} [Worded α] (text : String) : Option α :=
  Worded.all.find? fun value => word value == text

theorem ofWord?_word {α : Type} [Worded α] (value : α) :
    ofWord? (word value) = some value := by
  unfold ofWord?
  cases found : (Worded.all : List α).find? fun other => word other == word value with
  | none => simpa using List.find?_eq_none.mp found value (Worded.mem_all value)
  | some other =>
      have same := List.find?_some found
      simp only [beq_iff_eq] at same
      rw [Worded.word_injective other value same]

end Settlement
