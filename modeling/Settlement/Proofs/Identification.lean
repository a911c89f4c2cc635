import Settlement.Proofs.Written.Spellings

/-!
# Identifiers and their texts

The text of an identifier is read back as that identifier by the readers of its own kind and by no
others.  A reader takes exactly the spellings of a value, with the label of its kind in front of
them at most once.  No spelling begins like a label, because a label ends with a dash where the
first group of digits has not come to its end.
-/

namespace Settlement
namespace Identifier

open Uuid (Form SpelledBy hyphenate)

variable {kind other : RecordKind} {chars rest : List Char} {uuid : Uuid}

/-! ## Headings -/

theorem dash_mem_heading (kind : RecordKind) : '-' ∈ heading kind := by
  simp [heading]

theorem length_heading_le (kind : RecordKind) : (heading kind).length ≤ 8 := by
  cases kind <;> decide

/-- Labels begin neither like a form in braces nor like one with a mark. -/
theorem head_heading (kind : RecordKind) :
    (heading kind).head? ≠ some '{' ∧ (heading kind).head?.map Char.toLower ≠ some 'u' := by
  cases kind <;> decide

theorem heading_ne_nil (kind : RecordKind) : heading kind ≠ [] :=
  List.append_ne_nil_of_right_ne_nil _ (List.cons_ne_nil _ _)

/-- No spelling of a value begins with a heading. -/
theorem not_spelledBy_heading_append : ¬uuid.SpelledBy (heading kind ++ rest) := by
  rintro ⟨digits, spelled, form⟩
  have length_eq := Uuid.length_of_map_eq_hexDigits spelled
  have unbroken := Uuid.unbroken_of_map_eq_hexDigits spelled
  obtain ⟨brace, mark_letter⟩ := head_heading kind
  have head_eq : (heading kind ++ rest).head? = (heading kind).head? :=
    List.head?_append_of_ne_nil _ (heading_ne_nil kind)
  generalize text_eq : heading kind ++ rest = text at form
  rw [text_eq] at head_eq
  cases form with
  | plain =>
      rw [← text_eq] at unbroken
      exact unbroken (List.mem_append_left _ (dash_mem_heading kind))
  | hyphenated grouped =>
      -- The dash of the heading stands among the first eight characters, which are digits.
      obtain ⟨-, rfl⟩ := Uuid.grouped_iff.mp grouped
      have front : (hyphenate digits).take 8 = digits.take 8 := by
        rw [hyphenate, List.append_assoc, List.append_assoc, List.append_assoc,
          List.take_left' (by simp [length_eq])]
      rw [← text_eq, List.take_append, List.take_of_length_le (length_heading_le kind)] at front
      apply unbroken
      apply List.mem_of_mem_take
      rw [← front]
      exact List.mem_append_left _ (dash_mem_heading kind)
  | braced grouped => exact brace head_eq.symm
  | @urn mark inner marked grouped =>
      have mark_length := Uuid.length_of_marked marked
      rw [List.head?_append_of_ne_nil _ (List.ne_nil_of_length_eq_add_one mark_length)] at head_eq
      rw [← head_eq, ← List.head?_map, marked] at mark_letter
      exact mark_letter (by decide)

/-- The heading of a kind is cut off where it stands, but never the front of a spelling. -/
theorem unlabelled_spelledBy_iff :
    uuid.SpelledBy (unlabelled kind chars) ↔
      ∃ body, uuid.SpelledBy body ∧ (chars = body ∨ chars = heading kind ++ body) := by
  unfold unlabelled
  cases found : (heading kind).isPrefixOf? chars with
  | some rest =>
      obtain rfl := List.isPrefixOf?_eq_some_iff_append_eq.mp found
      constructor
      · intro spelled
        exact ⟨rest, spelled, .inr rfl⟩
      · rintro ⟨body, spelled, rfl | same⟩
        · exact (not_spelledBy_heading_append spelled).elim
        · rw [List.append_cancel_left same]
          exact spelled
  | none =>
      constructor
      · intro spelled
        exact ⟨chars, spelled, .inl rfl⟩
      · rintro ⟨body, spelled, rfl | rfl⟩
        · exact spelled
        · rw [List.isPrefixOf?_eq_some_iff_append_eq.mpr rfl] at found
          cases found

/-- A reader takes the spellings of a value, with or without the heading of its kind. -/
theorem ofChars?_eq_some_iff {identifier : Identifier kind} :
    ofChars? chars = some identifier ↔
      ∃ body, identifier.uuid.SpelledBy body ∧ (chars = body ∨ chars = heading kind ++ body) := by
  rw [← unlabelled_spelledBy_iff, ← Uuid.ofChars?_eq_some_iff, ofChars?, Option.map_eq_some_iff]
  constructor
  · rintro ⟨uuid, read, rfl⟩
    exact read
  · intro read
    exact ⟨identifier.uuid, read, rfl⟩

theorem ofText?_eq_some_iff {identifier : Identifier kind} {text : String} :
    ofText? text = some identifier ↔
      ∃ body, identifier.uuid.SpelledBy body ∧
        (text = String.ofList body ∨ text = String.ofList (heading kind ++ body)) := by
  simp only [ofText?, ofChars?_eq_some_iff, ← String.toList_inj, String.toList_ofList]

/-! ## Kinds -/

theorem label_injective : Function.Injective RecordKind.label := by
  intro kind other
  cases kind <;> cases other <;> decide

/-- A label ends at the first dash. -/
theorem takeWhile_heading (kind : RecordKind) (rest : List Char) :
    (heading kind ++ rest).takeWhile (· != '-') = kind.label.toList := by
  have letters : ∀ letter ∈ kind.label.toList, (letter != '-') = true := by
    cases kind <;> simp [RecordKind.label]
  rw [heading, List.append_assoc, List.takeWhile_append_of_pos letters]
  simp

/-- No text has the headings of two kinds. -/
theorem kind_of_heading_append {kind other : RecordKind} {rest rest' : List Char}
    (same : heading kind ++ rest = heading other ++ rest') : kind = other := by
  have labels := congrArg (List.takeWhile (· != '-')) same
  rw [takeWhile_heading, takeWhile_heading, String.toList_inj] at labels
  exact label_injective labels

/-- The text of an identifier is no text of another kind. -/
theorem ofText?_display_of_ne (different : other ≠ kind) (identifier : Identifier kind) :
    (ofText? identifier.display : Option (Identifier other)) = none := by
  rw [Option.eq_none_iff_forall_ne_some]
  intro foreign read
  obtain ⟨body, spelled, same | same⟩ := ofText?_eq_some_iff.mp read
  · rw [display, String.ofList_inj] at same
    exact not_spelledBy_heading_append (same ▸ spelled)
  · rw [display, String.ofList_inj] at same
    exact different (kind_of_heading_append same).symm

/-- What the texts of the identifiers of a kind are. -/
structure Texts (kind : RecordKind) : Prop where
  /-- An identifier is read back from its text. -/
  display : ∀ identifier : Identifier kind, ofText? identifier.display = some identifier
  /-- Every spelling of its value is read as the identifier, with and without the label. -/
  spelled : ∀ (uuid : Uuid) (chars : List Char), uuid.SpelledBy chars →
    ofText? (String.ofList chars) = some (⟨uuid⟩ : Identifier kind) ∧
      ofText? (String.ofList (heading kind ++ chars)) = some (⟨uuid⟩ : Identifier kind)
  /-- Readers of other kinds refuse the text. -/
  foreign : ∀ other, other ≠ kind → ∀ identifier : Identifier kind,
    (ofText? identifier.display : Option (Identifier other)) = none
  /-- What is read is what is spelled behind at most one label. -/
  read_iff : ∀ (text : String) (identifier : Identifier kind),
    ofText? text = some identifier ↔
      ∃ chars, identifier.uuid.SpelledBy chars ∧
        (text = String.ofList chars ∨ text = String.ofList (heading kind ++ chars))
  /-- Any 32 hexadecimal digits of either case are taken in each of the forms, and nothing else. -/
  accepted_iff : ∀ text : String,
    (ofText? text : Option (Identifier kind)).isSome ↔
      ∃ digits chars : List Char, digits.length = 32 ∧
        (∀ digit ∈ digits, digit.toLower ∈ hexAlphabet) ∧ Form digits chars ∧
        (text = String.ofList chars ∨ text = String.ofList (heading kind ++ chars))

/-- The text of an identifier loses nothing and is taken for no other kind, and readers take exactly
the spellings of values behind at most one label of their kind. -/
theorem texts (kind : RecordKind) : Texts kind where
  display identifier :=
    ofText?_eq_some_iff.mpr ⟨_, identifier.uuid.spelledBy_toChars, .inr rfl⟩
  spelled uuid chars spelled :=
    ⟨ofText?_eq_some_iff.mpr ⟨chars, spelled, .inl rfl⟩,
      ofText?_eq_some_iff.mpr ⟨chars, spelled, .inr rfl⟩⟩
  foreign other different identifier := ofText?_display_of_ne different identifier
  read_iff text identifier := ofText?_eq_some_iff
  accepted_iff text := by
    rw [Option.isSome_iff_exists]
    constructor
    · rintro ⟨identifier, read⟩
      obtain ⟨chars, ⟨digits, spelled, form⟩, text_eq⟩ := ofText?_eq_some_iff.mp read
      obtain ⟨length_eq, hex⟩ := Uuid.exists_hexDigits_iff.mp ⟨_, spelled⟩
      exact ⟨digits, chars, length_eq, hex, form, text_eq⟩
    · rintro ⟨digits, chars, length_eq, hex, form, text_eq⟩
      obtain ⟨uuid, spelled⟩ := Uuid.exists_hexDigits_iff.mpr ⟨length_eq, hex⟩
      exact ⟨⟨uuid⟩, ofText?_eq_some_iff.mpr ⟨chars, ⟨digits, spelled, form⟩, text_eq⟩⟩

end Identifier

namespace Samples

/-- A value with letters among its digits. -/
def lettered : Uuid := .ofNat 0x936da01f9abd4d9d80c702af85c822a8

/-- A spelling in braces, with digits of both cases. -/
def bracedSpelling : List Char := "\x7b936DA01F-9abd-4D9D-80c7-02AF85C822a8\x7d".toList

theorem lettered_spelledBy : lettered.SpelledBy bracedSpelling := by
  have grouped : Uuid.Grouped "936DA01F9abd4D9D80c702AF85C822a8".toList
      "936DA01F-9abd-4D9D-80c7-02AF85C822a8".toList :=
    ⟨["936DA01F".toList, "9abd".toList, "4D9D".toList, "80c7".toList, "02AF85C822a8".toList],
      by decide, by decide, by decide⟩
  exact ⟨_, by decide +kernel, .braced grouped⟩

/-- The label of an allocation does not swallow that of its lines. -/
theorem texts_of_allocations :
    lettered.SpelledBy bracedSpelling ∧ RecordKind.allocation ≠ .allocationLine ∧
      Identifier.ofText? "ALC-\x7b936DA01F-9abd-4D9D-80c7-02AF85C822a8\x7d" =
        some (⟨lettered⟩ : AllocationId) ∧
      (Identifier.ofText? (⟨lettered⟩ : AllocationLineId).display : Option AllocationId) = none ∧
      (Identifier.ofText? (⟨lettered⟩ : AllocationId).display : Option AllocationLineId) =
        none := by
  have different : RecordKind.allocation ≠ .allocationLine := by decide
  obtain ⟨-, labelled⟩ :=
    (Identifier.texts .allocation).spelled lettered bracedSpelling lettered_spelledBy
  exact ⟨lettered_spelledBy, different, labelled,
    (Identifier.texts .allocationLine).foreign .allocation different _,
    (Identifier.texts .allocation).foreign .allocationLine different.symm _⟩

end Samples
end Settlement
