import Mathlib.Data.List.DropRight
import TypedFilters.Text.Blank

/-!
# Trimmed texts

A text is trimmed when neither its first nor its last character is blank (`IsTrimmed`). `Text.trim`
makes a text trimmed and leaves a trimmed text alone, and blanks that are put around a text do not
survive it (`trim_surrounded`). Nothing is left of exactly the blank texts (`trim_eq_empty_iff`), which
count as absent (`nonBlank?_eq_some_iff`).
-/

namespace TypedFilters.Text

/-- Neither end of the text is a blank character. -/
structure IsTrimmed (s : String) : Prop where
  first : ∀ c ∈ s.toList.head?, ¬ isBlankChar c
  last : ∀ c ∈ s.toList.getLast?, ¬ isBlankChar c

/-! ## Characters -/

/-- A visible ASCII character is not blank. -/
theorem not_isBlankChar_of_visible {c : Char} (low : 33 ≤ c.toNat) (high : c.toNat ≤ 126) :
    ¬ isBlankChar c := by
  simp only [isBlankChar, blankRanges, List.any_cons, List.any_nil, Bool.or_false, Bool.or_eq_true,
    Bool.and_eq_true, decide_eq_true_eq]
  omega

theorem trimChars_eq_rdropWhile (cs : List Char) :
    trimChars cs = (cs.dropWhile isBlankChar).rdropWhile isBlankChar :=
  rfl

/-- Blanks in front of a text are trimmed away. -/
theorem trimChars_append_left {front : List Char} (blank : ∀ c ∈ front, isBlankChar c)
    (cs : List Char) : trimChars (front ++ cs) = trimChars cs := by
  simp only [trimChars, List.dropWhile_append_of_pos blank]

theorem trimChars_append_right {back : List Char} (blank : ∀ c ∈ back, isBlankChar c)
    (cs : List Char) : trimChars (cs ++ back) = trimChars cs := by
  have reversed : ∀ c ∈ back.reverse, isBlankChar c := fun c hc => blank c (List.mem_reverse.mp hc)
  simp only [trimChars, List.dropWhile_append]
  split
  · next none =>
    have gone : back.dropWhile isBlankChar = [] := by simpa using blank
    rw [gone, List.isEmpty_iff.mp none]
  · rw [List.reverse_append, List.dropWhile_append_of_pos reversed]

/-- The first character that trimming keeps is not blank. -/
theorem not_isBlankChar_head?_trimChars (cs : List Char) :
    ∀ c ∈ (trimChars cs).head?, ¬ isBlankChar c := by
  intro c head blank
  obtain ⟨back, kept⟩ := List.rdropWhile_prefix isBlankChar (cs.dropWhile isBlankChar)
  rw [← trimChars_eq_rdropWhile] at kept
  have first : c ∈ (cs.dropWhile isBlankChar).head? := by
    rw [← kept, List.head?_append, Option.mem_def.mp head]
    rfl
  have stopped := List.head?_dropWhile_not isBlankChar cs
  rw [Option.mem_def.mp first] at stopped
  simp only [blank, Bool.true_eq_false] at stopped

theorem not_isBlankChar_getLast?_trimChars (cs : List Char) :
    ∀ c ∈ (trimChars cs).getLast?, ¬ isBlankChar c := by
  intro c last
  have nonempty : trimChars cs ≠ [] := by
    intro none
    rw [none] at last
    cases last
  rw [List.getLast?_eq_getLast_of_ne_nil nonempty, Option.mem_some] at last
  rw [← last]
  exact List.rdropWhile_last_not isBlankChar _ nonempty

theorem trimChars_eq_self {cs : List Char} (first : ∀ c ∈ cs.head?, ¬ isBlankChar c)
    (last : ∀ c ∈ cs.getLast?, ¬ isBlankChar c) : trimChars cs = cs := by
  have front : cs.dropWhile isBlankChar = cs := by
    cases cs with
    | nil => rfl
    | cons c rest => exact List.dropWhile_cons_of_neg (first c rfl)
  rw [trimChars_eq_rdropWhile, front, List.rdropWhile_eq_self_iff]
  intro nonempty
  exact last _ (List.getLast?_eq_getLast_of_ne_nil nonempty)

/-- Nothing is left of characters exactly when all of them are blank. -/
theorem trimChars_eq_nil_iff (cs : List Char) : trimChars cs = [] ↔ ∀ c ∈ cs, isBlankChar c := by
  constructor
  · intro none
    rw [trimChars_eq_rdropWhile, List.rdropWhile_eq_nil_iff] at none
    have stopped := List.head?_dropWhile_not isBlankChar cs
    cases kept : cs.dropWhile isBlankChar with
    | nil => simpa using kept
    | cons c rest =>
      rw [kept] at none stopped
      simp only [List.head?_cons, none c List.mem_cons_self, Bool.true_eq_false] at stopped
  · intro blank
    have gone := trimChars_append_left blank []
    rwa [List.append_nil] at gone

/-! ## Texts -/

theorem isTrimmed_trim (s : String) : IsTrimmed (trim s) := by
  constructor
  · simpa only [trim, String.toList_ofList] using not_isBlankChar_head?_trimChars s.toList
  · simpa only [trim, String.toList_ofList] using not_isBlankChar_getLast?_trimChars s.toList

theorem IsTrimmed.trim_eq {s : String} (trimmed : IsTrimmed s) : trim s = s := by
  rw [trim, trimChars_eq_self trimmed.first trimmed.last, String.ofList_toList]

theorem trim_surrounded {front back : List Char} (blankFront : ∀ c ∈ front, isBlankChar c)
    (blankBack : ∀ c ∈ back, isBlankChar c) (cs : List Char) :
    trim (String.ofList (front ++ cs ++ back)) = trim (String.ofList cs) := by
  simp only [trim, String.toList_ofList, trimChars_append_right blankBack,
    trimChars_append_left blankFront]

/-- Nothing is left of a text exactly when it is blank. -/
theorem trim_eq_empty_iff (s : String) : trim s = "" ↔ isBlank s := by
  rw [trim, isBlank, List.all_eq_true, ← trimChars_eq_nil_iff, String.ofList_eq_empty_iff]

/-- A text counts as given exactly when it is not blank. -/
theorem nonBlank?_eq_some_iff {given? : Option String} {s : String} :
    nonBlank? given? = some s ↔ given? = some s ∧ ¬ isBlank s := by
  simp only [nonBlank?, Option.filter_eq_some_iff, Bool.not_eq_true', Bool.not_eq_true]

end TypedFilters.Text
