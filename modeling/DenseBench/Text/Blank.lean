/-!
# Blank characters

The characters with the Unicode property White_Space, and the removal of blanks at both ends of a
text.
-/

namespace DenseBench
namespace Text

/-- The property White_Space: twenty-five code points. -/
def isBlank (c : Char) : Bool :=
  let n := c.toNat
  (9 ≤ n && n ≤ 13) || n == 0x20 || n == 0x85 || n == 0xA0 || n == 0x1680 ||
    (0x2000 ≤ n && n ≤ 0x200A) || n == 0x2028 || n == 0x2029 || n == 0x202F || n == 0x205F ||
    n == 0x3000

/-- What is left of a text without the blanks at its ends. -/
def trim (text : List Char) : List Char :=
  ((text.dropWhile isBlank).reverse.dropWhile isBlank).reverse

/-- Trimming removes blanks before and after, and nothing else. -/
theorem exists_eq_append_trim (text : List Char) :
    ∃ before after, text = before ++ trim text ++ after ∧
      (∀ c ∈ before, isBlank c = true) ∧ ∀ c ∈ after, isBlank c = true := by
  refine ⟨text.takeWhile isBlank,
    ((text.dropWhile isBlank).reverse.takeWhile isBlank).reverse, ?_, ?_, ?_⟩
  · rw [trim, List.append_assoc, ← List.reverse_append, List.takeWhile_append_dropWhile,
      List.reverse_reverse, List.takeWhile_append_dropWhile]
  · exact fun c member => List.all_eq_true.mp List.all_takeWhile c member
  · exact fun c member => List.all_eq_true.mp List.all_takeWhile c (List.mem_reverse.mp member)

/-- More blanks at the ends make no difference. -/
theorem trim_append_append {before after : List Char} (text : List Char)
    (blank_before : ∀ c ∈ before, isBlank c = true)
    (blank_after : ∀ c ∈ after, isBlank c = true) :
    trim (before ++ text ++ after) = trim text := by
  have blank_reverse : ∀ c ∈ after.reverse, isBlank c = true := by simpa using blank_after
  have none_left : after.dropWhile isBlank = [] := by
    simpa using @List.dropWhile_append_of_pos _ isBlank after [] blank_after
  rw [trim, trim, List.append_assoc, List.dropWhile_append_of_pos blank_before,
    List.dropWhile_append]
  split
  · next empty =>
    rw [none_left, List.isEmpty_iff.mp empty]
  · rw [List.reverse_append, List.dropWhile_append_of_pos blank_reverse]

/-- Where a text ends without blanks, only blanks in front are removed. -/
theorem trim_append_of_plain (front : List Char) {word : List Char} (filled : word ≠ [])
    (plain : ∀ c ∈ word, isBlank c = false) :
    trim (front ++ word) = front.dropWhile isBlank ++ word := by
  have kept {chars : List Char} (same : ∀ c ∈ chars, c ∈ word) (some_chars : chars ≠ [])
      (rest : List Char) : (chars ++ rest).dropWhile isBlank = chars ++ rest := by
    obtain ⟨first, others, rfl⟩ := List.exists_cons_of_ne_nil some_chars
    have first_plain := plain first (same first List.mem_cons_self)
    simp [first_plain]
  have dropped : (front ++ word).dropWhile isBlank = front.dropWhile isBlank ++ word := by
    rw [List.dropWhile_append]
    split
    · next empty =>
      rw [List.isEmpty_iff.mp empty]
      simpa using kept (fun _ member => member) filled []
    · rfl
  rw [trim, dropped, List.reverse_append,
    kept (fun _ member => List.mem_reverse.mp member) (by simpa using filled)]
  simp

/-- A text without blanks has nothing to remove. -/
theorem trim_of_plain {text : List Char} (plain : ∀ c ∈ text, isBlank c = false) :
    trim text = text := by
  by_cases empty : text = []
  · rw [empty]
    rfl
  · exact trim_append_of_plain [] empty plain

/-- Lower case makes no blank, and changes none. -/
theorem isBlank_toLower (c : Char) : isBlank c.toLower = isBlank c := by
  delta Char.toLower
  split
  · next capital =>
    -- Neither a capital letter nor what stands thirty-two places after it is a blank.
    simp only [ge_iff_le, UInt32.le_iff_toNat_le, Char.reduceVal, UInt32.reduceToNat] at capital
    have sum : (c.val + ('a'.val - 'A'.val)).toNat = c.val.toNat + 32 := by
      simp only [Char.reduceVal, UInt32.reduceSub, UInt32.toNat_add, UInt32.reduceToNat]
      omega
    rw [Bool.eq_iff_iff]
    simp only [isBlank, Char.toNat, sum, Bool.or_eq_true, Bool.and_eq_true, decide_eq_true_eq,
      beq_iff_eq]
    omega
  · rfl

/-- Blanks are removed from a text in lower case as from the text. -/
theorem trim_map_toLower (text : List Char) :
    trim (text.map Char.toLower) = (trim text).map Char.toLower := by
  have same : isBlank ∘ Char.toLower = isBlank := funext isBlank_toLower
  rw [trim, trim, List.dropWhile_map, same, ← List.map_reverse, List.dropWhile_map, same,
    ← List.map_reverse]

end Text
end DenseBench
