import Mathlib.Data.List.Induction
import Settlement.Proofs.Written.Decimal
import Settlement.Proofs.Written.Identifiers

/-!
# Spellings of a value of 128 bits

A value is spelled by its 32 hexadecimal digits, each in either case, in one of four forms.  The
reader takes exactly the spellings, and each of them as the value that it spells.
-/

namespace Settlement

/-! ## Hexadecimal digits -/

/-- What holds of every code point of a range holds of the characters between its ends. -/
theorem forall_char_between {first last : Char} (property : Char → Prop)
    (holds : ∀ point < last.toNat + 1, first.toNat ≤ point → property (Char.ofNat point))
    {char : Char} (above : first ≤ char) (below : char ≤ last) : property char := by
  have point := holds char.toNat (Nat.lt_succ_of_le (UInt32.le_iff_toNat_le.mp below))
    (UInt32.le_iff_toNat_le.mp above)
  rwa [Char.ofNat_toNat] at point

/-- Digits count the same in either case. -/
theorem digitValue?_toLower (digit : Char) : digitValue? digit.toLower = digitValue? digit := by
  by_cases capital : 'A' ≤ digit ∧ digit ≤ 'Z'
  · exact forall_char_between (fun char => digitValue? char.toLower = digitValue? char)
      (by decide) capital.1 capital.2
  · exact congrArg digitValue? (dif_neg capital)

theorem le_of_digitValue? {digit : Char} {value : Nat} (counts : digitValue? digit = some value) :
    '0' ≤ digit ∧ digit ≤ 'f' := by
  unfold digitValue? at counts
  split_ifs at counts with number small capital
  · exact ⟨number.1, Char.le_trans number.2 (by decide)⟩
  · exact ⟨Char.le_trans (by decide) small.1, small.2⟩
  · exact ⟨Char.le_trans (by decide) capital.1, Char.le_trans capital.2 (by decide)⟩

/-- A digit counts what the small digit of its value does. -/
theorem digitValue?_eq_some_iff {digit : Char} {value : Nat} :
    digitValue? digit = some value ↔ value < 16 ∧ digit.toLower = Nat.digitChar value := by
  constructor
  · intro counts
    obtain ⟨above, below⟩ := le_of_digitValue? counts
    exact forall_char_between
      (fun char => ∀ value ∈ digitValue? char, value < 16 ∧ char.toLower = Nat.digitChar value)
      (by decide) above below value counts
  · rintro ⟨small, lower⟩
    rw [← digitValue?_toLower, lower, digitValue?_digitChar small]

/-- The hexadecimal digits in small letters. -/
def hexAlphabet : List Char := "0123456789abcdef".toList

theorem isSome_digitValue?_iff {digit : Char} :
    (digitValue? digit).isSome ↔ digit.toLower ∈ hexAlphabet := by
  rw [Option.isSome_iff_exists]
  simp only [digitValue?_eq_some_iff]
  have alphabet : hexAlphabet = (List.range 16).map Nat.digitChar := by decide
  simp [alphabet, eq_comm]

/-- Hexadecimal digits are read as the number that they spell in small letters. -/
theorem ofDigits?_eq_some_iff {digits : List Char} {number : Nat} :
    ofDigits? 16 digits = some number ↔
      number < 16 ^ digits.length ∧
        digits.map Char.toLower = fixedDigits 16 digits.length number := by
  induction digits using List.reverseRecOn generalizing number with
  | nil => simp [ofDigits?, fixedDigits, eq_comm]
  | append_singleton front digit ih =>
      rw [ofDigits?_concat]
      simp only [Option.bind_eq_some_iff, ih, appendDigit?_eq_some, digitValue?_eq_some_iff]
      rw [List.length_append, List.length_singleton, List.map_append, fixedDigits, Nat.pow_succ]
      constructor
      · rintro ⟨start, ⟨start_lt, front_eq⟩, value, value_lt, ⟨-, digit_eq⟩, rfl⟩
        have start_eq : (start * 16 + value) / 16 = start := by omega
        have value_eq : (start * 16 + value) % 16 = value := by omega
        rw [start_eq, value_eq, front_eq, List.map_singleton, digit_eq]
        exact ⟨by omega, rfl⟩
      · rintro ⟨number_lt, digits_eq⟩
        obtain ⟨front_eq, digit_eq⟩ := List.append_inj' digits_eq rfl
        have value_lt := Nat.mod_lt number (show 16 > 0 by decide)
        exact ⟨number / 16, ⟨by omega, front_eq⟩, number % 16, value_lt,
          ⟨value_lt, List.singleton_inj.mp digit_eq⟩, Nat.div_add_mod' number 16⟩

theorem isSome_ofDigits?_iff {digits : List Char} :
    (ofDigits? 16 digits).isSome ↔ ∀ digit ∈ digits, digit.toLower ∈ hexAlphabet := by
  simp only [← isSome_digitValue?_iff]
  constructor
  · intro read
    obtain ⟨number, counts⟩ := Option.isSome_iff_exists.mp read
    exact isSome_of_digits counts
  · intro all
    induction digits using List.reverseRecOn with
    | nil => rfl
    | append_singleton front digit ih =>
        obtain ⟨number, front_eq⟩ := Option.isSome_iff_exists.mp
          (ih fun digit mem => all digit (List.mem_append_left _ mem))
        obtain ⟨value, digit_eq⟩ := Option.isSome_iff_exists.mp (all digit (by simp))
        have appended : appendDigit? 16 number digit = some (number * 16 + value) :=
          appendDigit?_eq_some.mpr ⟨value, (digitValue?_eq_some_iff.mp digit_eq).1, digit_eq, rfl⟩
        rw [ofDigits?_concat, front_eq, Option.bind_some, appended]
        rfl

namespace Uuid

/-! ## The four forms -/

/-- Characters that are digits in groups of 8, 4, 4, 4 and 12, with hyphens between the groups. -/
def Grouped (digits chars : List Char) : Prop :=
  ∃ groups : List (List Char), groups.map List.length = [8, 4, 4, 4, 12] ∧
    groups.flatten = digits ∧ List.intercalate ['-'] groups = chars

/-- The text forms of digits. -/
inductive Form (digits : List Char) : List Char → Prop where
  | plain : Form digits digits
  | hyphenated {chars : List Char} (grouped : Grouped digits chars) : Form digits chars
  | braced {chars : List Char} (grouped : Grouped digits chars) :
      Form digits ('{' :: (chars ++ ['}']))
  /-- The letters of the mark may be of either case.  This follows uuid's parser, to which the front
  of a URN reads the same in either. -/
  | urn {mark chars : List Char} (marked : mark.map Char.toLower = "urn:uuid:".toList)
      (grouped : Grouped digits chars) : Form digits (mark ++ chars)

/-- Characters spell a value when they are one of the forms of its digits, in either case. -/
def SpelledBy (uuid : Uuid) (chars : List Char) : Prop :=
  ∃ digits, digits.map Char.toLower = uuid.hexDigits ∧ Form digits chars

variable {digits chars rest : List Char} {uuid : Uuid}

theorem grouped_iff : Grouped digits chars ↔ digits.length = 32 ∧ hyphenate digits = chars := by
  constructor
  · rintro ⟨groups, lengths, rfl, rfl⟩
    simp only [List.map_eq_cons_iff, List.map_eq_nil_iff] at lengths
    obtain ⟨first, _, rfl, first_length, second, _, rfl, second_length, third, _, rfl,
      third_length, fourth, _, rfl, fourth_length, fifth, _, rfl, fifth_length, rfl⟩ := lengths
    constructor
    · simp [first_length, second_length, third_length, fourth_length, fifth_length]
    · simp (disch := omega) [hyphenate, List.intercalate, List.drop_append,
        List.drop_eq_nil_of_le, first_length, second_length, third_length]
  · rintro ⟨length_eq, rfl⟩
    refine ⟨[digits.take 8, (digits.drop 8).take 4, (digits.drop 12).take 4,
      (digits.drop 16).take 4, digits.drop 20], ?_, ?_, ?_⟩
    · simp [length_eq]
    · simp [append_groups]
    · simp [hyphenate, List.intercalate]

theorem ungroup?_eq_some_iff (length_eq : digits.length = 32) :
    ungroup? chars = some digits ↔ Grouped digits chars := by
  rw [grouped_iff]
  constructor
  · intro ungrouped
    simp only [ungroup?] at ungrouped
    split_ifs at ungrouped with same
    cases ungrouped
    exact ⟨length_eq, same⟩
  · rintro ⟨-, rfl⟩
    exact ungroup?_hyphenate length_eq

/-- Characters whose ninth is no hyphen are not in groups. -/
theorem ungroup?_eq_none (other : chars[8]? ≠ some '-') : ungroup? chars = none := by
  simp only [ungroup?]
  split_ifs with same
  · have lengths := congrArg List.length same
    rw [length_hyphenate] at lengths
    simp only [List.length_append, List.length_take, List.length_drop] at lengths
    have long : 8 ≤ chars.length := by omega
    have ninth := congrArg (fun chars : List Char => chars[8]?) same
    simp only [hyphenate] at ninth
    simp [long] at ninth
    exact absurd ninth.symm other
  · rfl

theorem unbrace?_eq_some_iff : unbrace? chars = some rest ↔ chars = '{' :: (rest ++ ['}']) := by
  constructor
  · intro unbraced
    unfold unbrace? at unbraced
    split at unbraced
    · rename_i inner
      split_ifs at unbraced with last
      cases unbraced
      have closed := List.dropLast_append_getLast? _ last
      rw [closed]
    · cases unbraced
  · rintro rfl
    simp [unbrace?]

theorem length_of_marked {mark : List Char} (marked : mark.map Char.toLower = "urn:uuid:".toList) :
    mark.length = 9 := by
  simpa using congrArg List.length marked

theorem unurn?_eq_some_iff :
    unurn? chars = some rest ↔
      ∃ mark : List Char, mark.map Char.toLower = "urn:uuid:".toList ∧ mark ++ rest = chars := by
  unfold unurn?
  split_ifs with marked
  · rw [Option.some.injEq]
    constructor
    · rintro rfl
      exact ⟨chars.take 9, marked, List.take_append_drop 9 chars⟩
    · rintro ⟨mark, marked', rfl⟩
      exact List.drop_left' (length_of_marked marked')
  · constructor
    · rintro ⟨⟩
    · rintro ⟨mark, marked', rfl⟩
      rw [List.take_left' (length_of_marked marked')] at marked
      exact (marked marked').elim

/-- The digits that are found in other than 32 characters. -/
theorem formDigits?_of_length_ne (other : chars.length ≠ 32) :
    formDigits? chars =
      (ungroup? chars).or (((unbrace? chars).bind ungroup?).or ((unurn? chars).bind ungroup?)) := by
  rw [formDigits?, if_neg other, Option.orElse_eq_orElse, Option.orElse_eq_or,
    Option.orElse_eq_or, Option.or_assoc]

theorem formDigits?_braced (length_eq : digits.length = 32) (unbroken : '-' ∉ digits)
    (grouped : Grouped digits chars) : formDigits? ('{' :: (chars ++ ['}'])) = some digits := by
  obtain ⟨-, rfl⟩ := grouped_iff.mp grouped
  have ungrouped : ungroup? ('{' :: (hyphenate digits ++ ['}'])) = none := by
    apply ungroup?_eq_none
    intro ninth
    rw [List.getElem?_cons_succ, hyphenate] at ninth
    simp [length_eq] at ninth
    exact unbroken (ninth ▸ List.getElem_mem _)
  have long : ('{' :: (hyphenate digits ++ ['}'])).length ≠ 32 := by
    simp [length_hyphenate, length_eq]
  rw [formDigits?_of_length_ne long, ungrouped, unbrace?_eq_some_iff.mpr rfl, Option.bind_some,
    ungroup?_hyphenate length_eq]
  rfl

theorem formDigits?_urn {mark : List Char} (length_eq : digits.length = 32)
    (marked : mark.map Char.toLower = "urn:uuid:".toList) (grouped : Grouped digits chars) :
    formDigits? (mark ++ chars) = some digits := by
  obtain ⟨-, rfl⟩ := grouped_iff.mp grouped
  have mark_length := length_of_marked marked
  have ungrouped : ungroup? (mark ++ hyphenate digits) = none := by
    apply ungroup?_eq_none
    intro ninth
    have colon := congrArg (fun chars : List Char => chars[8]?) marked
    rw [List.getElem?_append_left (by omega)] at ninth
    simp only [List.getElem?_map, ninth] at colon
    exact absurd colon (by decide)
  have unbraced : unbrace? (mark ++ hyphenate digits) = none := by
    rw [Option.eq_none_iff_forall_ne_some]
    intro inner braced
    have brace := congrArg List.head? (unbrace?_eq_some_iff.mp braced)
    have letter := congrArg List.head? marked
    rw [List.head?_append_of_ne_nil _ (List.ne_nil_of_length_eq_add_one mark_length)] at brace
    rw [List.head?_map, brace, List.head?_cons] at letter
    exact absurd letter (by decide)
  have long : (mark ++ hyphenate digits).length ≠ 32 := by
    simp [length_hyphenate, length_eq, mark_length]
  rw [formDigits?_of_length_ne long, ungrouped, unbraced,
    unurn?_eq_some_iff.mpr ⟨mark, marked, rfl⟩, Option.bind_some, ungroup?_hyphenate length_eq]
  rfl

/-- Digits are found in exactly their forms. -/
theorem formDigits?_eq_some_iff (length_eq : digits.length = 32) (unbroken : '-' ∉ digits) :
    formDigits? chars = some digits ↔ Form digits chars := by
  constructor
  · intro found
    by_cases short : chars.length = 32
    · rw [formDigits?, if_pos short] at found
      cases found
      exact .plain
    · rw [formDigits?_of_length_ne short] at found
      simp only [Option.or_eq_some_iff, Option.bind_eq_some_iff,
        ungroup?_eq_some_iff length_eq] at found
      rcases found with grouped | ⟨-, ⟨inner, braced, grouped⟩ | ⟨-, inner, named, grouped⟩⟩
      · exact .hyphenated grouped
      · rw [unbrace?_eq_some_iff.mp braced]
        exact .braced grouped
      · obtain ⟨mark, marked, rfl⟩ := unurn?_eq_some_iff.mp named
        exact .urn marked grouped
  · intro form
    cases form with
    | plain => exact if_pos length_eq
    | hyphenated grouped =>
        have long : chars.length ≠ 32 := by
          rw [← (grouped_iff.mp grouped).2, length_hyphenate, length_eq]
          decide
        rw [formDigits?_of_length_ne long, (ungroup?_eq_some_iff length_eq).mpr grouped]
        rfl
    | braced grouped => exact formDigits?_braced length_eq unbroken grouped
    | urn marked grouped => exact formDigits?_urn length_eq marked grouped

/-! ## The value -/

theorem ofHexDigits?_eq_some_iff :
    ofHexDigits? digits = some uuid ↔ digits.map Char.toLower = uuid.hexDigits := by
  unfold ofHexDigits?
  split_ifs with length_eq
  · rw [Option.map_eq_some_iff]
    simp only [ofDigits?_eq_some_iff, length_eq]
    constructor
    · rintro ⟨number, ⟨number_lt, digits_eq⟩, rfl⟩
      have reached : number % 2 ^ 128 = number := Nat.mod_eq_of_lt number_lt
      rw [digits_eq, hexDigits, ofNat, BitVec.toNat_ofNat, reached]
    · intro digits_eq
      exact ⟨uuid.bits.toNat, ⟨uuid.bits.isLt, digits_eq⟩, by simp [ofNat]⟩
  · constructor
    · rintro ⟨⟩
    · intro digits_eq
      have length_eq' := congrArg List.length digits_eq
      rw [List.length_map, length_hexDigits] at length_eq'
      exact (length_eq length_eq').elim

/-- Some value is spelled by 32 hexadecimal digits of either case, and by nothing else. -/
theorem exists_hexDigits_iff :
    (∃ uuid : Uuid, digits.map Char.toLower = uuid.hexDigits) ↔
      digits.length = 32 ∧ ∀ digit ∈ digits, digit.toLower ∈ hexAlphabet := by
  simp only [← ofHexDigits?_eq_some_iff, ← Option.isSome_iff_exists, ← isSome_ofDigits?_iff]
  unfold ofHexDigits?
  split_ifs with length_eq <;> simp [length_eq]

theorem length_of_map_eq_hexDigits (spelled : digits.map Char.toLower = uuid.hexDigits) :
    digits.length = 32 := (exists_hexDigits_iff.mp ⟨uuid, spelled⟩).1

theorem unbroken_of_map_eq_hexDigits (spelled : digits.map Char.toLower = uuid.hexDigits) :
    '-' ∉ digits := by
  intro mem
  exact absurd ((exists_hexDigits_iff.mp ⟨uuid, spelled⟩).2 _ mem) (by decide)

/-- A value is read from exactly its spellings. -/
theorem ofChars?_eq_some_iff : ofChars? chars = some uuid ↔ uuid.SpelledBy chars := by
  rw [ofChars?, Option.bind_eq_some_iff]
  simp only [ofHexDigits?_eq_some_iff]
  constructor
  · rintro ⟨digits, found, spelled⟩
    exact ⟨digits, spelled, (formDigits?_eq_some_iff (length_of_map_eq_hexDigits spelled)
      (unbroken_of_map_eq_hexDigits spelled)).mp found⟩
  · rintro ⟨digits, spelled, form⟩
    exact ⟨digits, (formDigits?_eq_some_iff (length_of_map_eq_hexDigits spelled)
      (unbroken_of_map_eq_hexDigits spelled)).mpr form, spelled⟩

theorem spelledBy_toChars (uuid : Uuid) : uuid.SpelledBy uuid.toChars :=
  ofChars?_eq_some_iff.mp (ofChars?_toChars uuid)

end Uuid
end Settlement
