import DenseBench.DatasetSize

/-!
# The spellings of dataset sizes

A text names a size class exactly if it is blanks, a word and blanks, and the word is one of the
spellings of the class, with or without the suffix, in any case of its letters (`Spells`).  The
reader finds the word by removing all blanks, whichever way the text was put together: no spelling
has a blank in it, and the lower case of a blank is that blank.  Main result: `parse_spelling`.
-/

namespace DenseBench
namespace DatasetSize

/-- The words that name a class: a spelling with or without the suffix, where the case of ASCII
letters does not count. -/
def Word (size : DatasetSize) (word : List Char) : Prop :=
  ∃ spelling ∈ size.spellings,
    word.map Char.toLower = spelling ∨ word.map Char.toLower = spelling ++ suffix

instance (size : DatasetSize) (word : List Char) : Decidable (size.Word word) :=
  inferInstanceAs (Decidable (∃ spelling ∈ size.spellings,
    word.map Char.toLower = spelling ∨ word.map Char.toLower = spelling ++ suffix))

/-- The texts that name a class: a word between blanks. -/
def Spells (text : List Char) (size : DatasetSize) : Prop :=
  ∃ before word after, text = before ++ word ++ after ∧
    (∀ c ∈ before, Text.isBlank c = true) ∧ (∀ c ∈ after, Text.isBlank c = true) ∧ size.Word word

theorem mem_all (size : DatasetSize) : size ∈ all := by
  cases size <;> decide

/-- No two classes share a spelling. -/
theorem eq_of_mem_spellings {size other : DatasetSize} {text : List Char}
    (first : text ∈ size.spellings) (second : text ∈ other.spellings) : size = other := by
  have apart : ∀ size ∈ all, ∀ other ∈ all, ∀ text ∈ size.spellings, text ∈ other.spellings →
      size = other := by
    decide
  exact apart size (mem_all size) other (mem_all other) text first second

/-- No spelling carries the suffix itself. -/
theorem suffix_not_suffix_of_mem_spellings {size : DatasetSize} {text : List Char}
    (spelling : text ∈ size.spellings) : ¬suffix <:+ text := by
  have bare : ∀ size ∈ all, ∀ text ∈ size.spellings, ¬suffix.isSuffixOf text = true := by decide
  rw [← List.isSuffixOf_iff_suffix]
  exact bare size (mem_all size) text spelling

/-- Neither a spelling nor the suffix has a blank in it. -/
theorem isBlank_of_mem_spelling {size : DatasetSize} {text : List Char}
    (spelling : text ∈ size.spellings) : ∀ c ∈ text ++ suffix, Text.isBlank c = false := by
  have none_blank : ∀ size ∈ all, ∀ text ∈ size.spellings,
      (text ++ suffix).any Text.isBlank = false := by
    decide
  simpa only [List.any_eq_false, Bool.not_eq_true] using
    none_blank size (mem_all size) text spelling

theorem ofSpelling?_eq_some_iff {size : DatasetSize} {text : List Char} :
    ofSpelling? text = some size ↔ text ∈ size.spellings := by
  constructor
  · intro found
    simpa using List.find?_some found
  · intro spelling
    cases found : ofSpelling? text with
    | none =>
        have unknown := List.find?_eq_none.mp found size (mem_all size)
        simp [spelling] at unknown
    | some other =>
        have other_spelling : text ∈ other.spellings := by simpa using List.find?_some found
        rw [eq_of_mem_spellings other_spelling spelling]

theorem dropSuffix_append (text : List Char) : dropSuffix (text ++ suffix) = text := by
  have carried : suffix.isSuffixOf (text ++ suffix) = true := by simp
  rw [dropSuffix, if_pos carried]
  simp

theorem dropSuffix_of_not_suffix {text : List Char} (bare : ¬suffix <:+ text) :
    dropSuffix text = text := by
  rw [dropSuffix, if_neg]
  rwa [List.isSuffixOf_iff_suffix]

/-- One suffix is dropped, and what is left is a spelling. -/
theorem dropSuffix_mem_spellings_iff {size : DatasetSize} {text : List Char} :
    dropSuffix text ∈ size.spellings ↔
      ∃ spelling ∈ size.spellings, text = spelling ∨ text = spelling ++ suffix := by
  by_cases carried : suffix <:+ text
  · obtain ⟨front, rfl⟩ := carried
    rw [dropSuffix_append]
    constructor
    · intro spelling
      exact ⟨front, spelling, .inr rfl⟩
    · rintro ⟨spelling, known, same | same⟩
      · exact absurd ⟨front, same⟩ (suffix_not_suffix_of_mem_spellings known)
      · rwa [List.append_cancel_right same]
  · rw [dropSuffix_of_not_suffix carried]
    constructor
    · intro spelling
      exact ⟨text, spelling, .inl rfl⟩
    · rintro ⟨spelling, known, rfl | rfl⟩
      · exact known
      · exact absurd (List.suffix_append spelling suffix) carried

/-- A word that names a class has no blank in it, for neither has its lower case. -/
theorem Word.isBlank_eq_false {size : DatasetSize} {word : List Char} (named : size.Word word) :
    ∀ c ∈ word, Text.isBlank c = false := by
  obtain ⟨spelling, known, lower⟩ := named
  intro c member
  have folded : c.toLower ∈ word.map Char.toLower := List.mem_map_of_mem member
  have lower_member : c.toLower ∈ spelling ++ suffix := by
    rcases lower with lower | lower
    · exact List.mem_append_left _ (lower ▸ folded)
    · exact lower ▸ folded
  rw [← Text.isBlank_toLower]
  exact isBlank_of_mem_spelling known _ lower_member

/-- The word of a text that names a class is the text without the blanks at its ends. -/
theorem spells_iff_word_trim {size : DatasetSize} {text : List Char} :
    Spells text size ↔ size.Word (Text.trim text) := by
  constructor
  · rintro ⟨before, word, after, rfl, blank_before, blank_after, named⟩
    rw [Text.trim_append_append word blank_before blank_after,
      Text.trim_of_plain named.isBlank_eq_false]
    exact named
  · intro named
    obtain ⟨before, after, split, blank_before, blank_after⟩ := Text.exists_eq_append_trim text
    exact ⟨before, Text.trim text, after, split, blank_before, blank_after, named⟩

/-- A text is read as a class if it names the class. -/
theorem parse_eq_ok_iff {text : String} {size : DatasetSize} :
    parse text = .ok size ↔ Spells text.toList size := by
  rw [spells_iff_word_trim, Word, ← dropSuffix_mem_spellings_iff, ← ofSpelling?_eq_some_iff,
    parse]
  cases ofSpelling? (dropSuffix ((Text.trim text.toList).map Char.toLower)) <;> simp

/-- A refusal carries the text as it was given. -/
theorem input_of_parse {text : String} {error : UnknownDatasetSize}
    (refused : parse text = .error error) : error = ⟨text⟩ := by
  rw [parse] at refused
  cases found : ofSpelling? (dropSuffix ((Text.trim text.toList).map Char.toLower)) with
  | some size =>
      rw [found] at refused
      contradiction
  | none =>
      rw [found] at refused
      exact (Except.error.inj refused).symm

/-- A text that names no class is refused. -/
theorem parse_eq_error {text : String} (unnamed : ∀ size, ¬Spells text.toList size) :
    parse text = .error ⟨text⟩ := by
  cases read : parse text with
  | ok size => exact absurd (parse_eq_ok_iff.mp read) (unnamed size)
  | error error => rw [input_of_parse read]

/-- The case of ASCII letters does not count. -/
theorem spells_congr {size : DatasetSize} {text other : List Char}
    (same : text.map Char.toLower = other.map Char.toLower) :
    Spells text size ↔ Spells other size := by
  rw [spells_iff_word_trim, spells_iff_word_trim, Word, Word, ← Text.trim_map_toLower, same,
    Text.trim_map_toLower]

/-- Blanks around a text do not count. -/
theorem spells_append_append_iff {size : DatasetSize} {before after : List Char} (text : List Char)
    (blank_before : ∀ c ∈ before, Text.isBlank c = true)
    (blank_after : ∀ c ∈ after, Text.isBlank c = true) :
    Spells (before ++ text ++ after) size ↔ Spells text size := by
  rw [spells_iff_word_trim, spells_iff_word_trim,
    Text.trim_append_append text blank_before blank_after]

/-- A text that ends with two suffixes names no class. -/
theorem not_spells_of_two_suffixes {size : DatasetSize} {text stem after : List Char}
    (blank_after : ∀ c ∈ after, Text.isBlank c = true)
    (lower : text.map Char.toLower = stem ++ (suffix ++ suffix) ++ after) : ¬Spells text size := by
  have plain : ∀ c ∈ suffix ++ suffix, Text.isBlank c = false := by
    have none_blank : (suffix ++ suffix).any Text.isBlank = false := by decide
    simpa only [List.any_eq_false, Bool.not_eq_true] using none_blank
  have trimmed : (Text.trim text).map Char.toLower =
      stem.dropWhile Text.isBlank ++ (suffix ++ suffix) := by
    rw [← Text.trim_map_toLower, lower, ← List.nil_append (stem ++ (suffix ++ suffix)),
      Text.trim_append_append _ (by simp) blank_after,
      Text.trim_append_of_plain stem (by decide) plain]
  rw [spells_iff_word_trim]
  rintro ⟨spelling, known, same⟩
  apply suffix_not_suffix_of_mem_spellings known
  rcases same with same | same
  · exact ⟨stem.dropWhile Text.isBlank ++ suffix, by rw [← same, trimmed, List.append_assoc]⟩
  · have twice : stem.dropWhile Text.isBlank ++ suffix ++ suffix = spelling ++ suffix := by
      rw [← same, trimmed, List.append_assoc]
    exact ⟨stem.dropWhile Text.isBlank, List.append_cancel_right twice⟩

/-- A text with a blank between other characters names no class. -/
theorem not_spells_of_blank {size : DatasetSize} {text front back : List Char} {blank : Char}
    (split : text = front ++ blank :: back) (white : Text.isBlank blank = true)
    (front_filled : ∃ c ∈ front, Text.isBlank c = false)
    (back_filled : ∃ c ∈ back, Text.isBlank c = false) : ¬Spells text size := by
  rintro ⟨before, word, after, other_split, blank_before, blank_after, named⟩
  obtain ⟨first, first_member, first_plain⟩ := front_filled
  obtain ⟨last, last_member, last_plain⟩ := back_filled
  have both : front ++ blank :: back = before ++ (word ++ after) := by
    rw [← split, other_split, List.append_assoc]
  -- The blank stands behind a character that is not in `before`, and before one that is not in
  -- `after`, so it is in the word.
  rcases List.append_eq_append_iff.mp both with ⟨rest, rfl, -⟩ | ⟨rest, -, same⟩
  · have blank_first := blank_before first (List.mem_append_left rest first_member)
    rw [first_plain] at blank_first
    contradiction
  · rcases List.append_eq_append_iff.mp same with ⟨others, -, rfl⟩ | ⟨others, rfl, tail⟩
    · have blank_last := blank_after last (by simp [last_member])
      rw [last_plain] at blank_last
      contradiction
    · cases others with
      | nil =>
          rw [List.nil_append] at tail
          have blank_last := blank_after last (tail ▸ List.mem_cons_of_mem blank last_member)
          rw [last_plain] at blank_last
          contradiction
      | cons other others =>
          obtain ⟨rfl, -⟩ := List.cons.inj tail
          have plain := named.isBlank_eq_false blank (by simp)
          rw [plain] at white
          contradiction

/-- The name of a class names it, with or without the suffix. -/
theorem parse_name (size : DatasetSize) :
    parse size.name = .ok size ∧ parse (size.name ++ "_DATASET") = .ok size := by
  have word : ∀ size ∈ all, size.Word size.name.toList ∧
      size.Word (size.name.toList ++ "_DATASET".toList) := by
    decide
  obtain ⟨bare, suffixed⟩ := word size (mem_all size)
  rw [parse_eq_ok_iff, parse_eq_ok_iff, String.toList_append]
  have spelled {text : List Char} (named : size.Word text) : Spells text size :=
    ⟨[], text, [], by simp, by simp, by simp, named⟩
  exact ⟨spelled bare, spelled suffixed⟩

/-- Reading a size class.  A text is read as a class exactly if it is a word between blanks whose
lower case is a spelling of the class, with or without the suffix; no text is read as two classes,
and one that is not read is given back as it is.  So neither the case of ASCII letters nor blanks
at the ends count, while a second suffix, or a blank between other characters, such as one before
the suffix, makes a text unreadable.  A text converts to a class as it is read, and every class can
be read from its name. -/
theorem parse_spelling (text : String) :
    (∀ size, parse text = .ok size ↔
      ∃ before word after, text.toList = before ++ word ++ after ∧
        (∀ c ∈ before, Text.isBlank c = true) ∧ (∀ c ∈ after, Text.isBlank c = true) ∧
        ∃ spelling ∈ size.spellings,
          word.map Char.toLower = spelling ∨ word.map Char.toLower = spelling ++ suffix) ∧
    (∀ size other, Spells text.toList size → Spells text.toList other → size = other) ∧
    ((∀ size, ¬Spells text.toList size) → parse text = .error ⟨text⟩) ∧
    (∀ other : String, other.toList.map Char.toLower = text.toList.map Char.toLower →
      ∀ size, parse other = .ok size ↔ parse text = .ok size) ∧
    (∀ before after : String, (∀ c ∈ before.toList, Text.isBlank c = true) →
      (∀ c ∈ after.toList, Text.isBlank c = true) →
      ∀ size, parse (before ++ text ++ after) = .ok size ↔ parse text = .ok size) ∧
    (∀ stem after, (∀ c ∈ after, Text.isBlank c = true) →
      text.toList.map Char.toLower = stem ++ (suffix ++ suffix) ++ after →
      parse text = .error ⟨text⟩) ∧
    (∀ front blank back, text.toList = front ++ blank :: back → Text.isBlank blank = true →
      (∃ c ∈ front, Text.isBlank c = false) → (∃ c ∈ back, Text.isBlank c = false) →
      parse text = .error ⟨text⟩) ∧
    ofString text = parse text ∧
    ∀ size, parse size.name = .ok size ∧ parse (size.name ++ "_DATASET") = .ok size := by
  refine ⟨fun size => parse_eq_ok_iff, ?_, parse_eq_error, ?_, ?_, ?_, ?_, rfl, parse_name⟩
  · intro size other first second
    rw [← parse_eq_ok_iff] at first second
    exact Except.ok.inj (first.symm.trans second)
  · intro other same size
    rw [parse_eq_ok_iff, parse_eq_ok_iff, spells_congr same]
  · intro before after blank_before blank_after size
    rw [parse_eq_ok_iff, parse_eq_ok_iff, String.toList_append, String.toList_append,
      spells_append_append_iff _ blank_before blank_after]
  · intro stem after blank_after lower
    exact parse_eq_error fun size => not_spells_of_two_suffixes blank_after lower
  · intro front blank back split white front_filled back_filled
    exact parse_eq_error fun size => not_spells_of_blank split white front_filled back_filled

end DatasetSize
end DenseBench
