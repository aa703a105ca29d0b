import TypedFilters.Proofs.Json.Integers
import TypedFilters.Proofs.Json.Reading
import TypedFilters.Proofs.Json.Strings

/-!
# Values are read back

What is written for a value, the reader reads back as that value, as long as its numbers are integers
that fit 64 bits, the names in each of its objects are distinct and it does not nest too deep (`Readable`).
The items of a list and the members of an object are read back one by one, whatever white space is put
between them (`items_written`, `members_written`); the values follow by induction, for every layout
(`Layout.value_text`). The two printers write such layouts, so their texts are read back as a whole
(`document_pretty`, `document_compact`).
-/

namespace TypedFilters.Json

open Text

/-- The value is one that the reader can give back, down to a depth of nesting. -/
inductive Readable : Nat → Value → Prop
  | null {depth : Nat} : Readable depth .null
  | bool {depth : Nat} {b : Bool} : Readable depth (.bool b)
  | integer {depth : Nat} {i : Int} (lower : -2 ^ 63 ≤ i) (upper : i < 2 ^ 64) :
      Readable depth (.number (.integer i))
  | string {depth : Nat} {s : String} : Readable depth (.string s)
  | array {depth : Nat} {vs : List Value} (each : ∀ v ∈ vs, Readable depth v) :
      Readable (depth + 1) (.array vs)
  | object {depth : Nat} {ms : List (String × Value)} (distinct : (ms.map Prod.fst).Nodup)
      (each : ∀ m ∈ ms, Readable depth m.2) : Readable (depth + 1) (.object ms)

/-! ## White space -/

section Space

variable {gap cs : List Char} {c : Char}

theorem isSpace_iff : isSpace c ↔ c = ' ' ∨ c = '\n' ∨ c = '\t' ∨ c = '\r' := by
  simp only [isSpace, Bool.or_eq_true, decide_eq_true_eq, or_assoc]

theorem skipSpace_append (space : ∀ c ∈ gap, isSpace c) : skipSpace (gap ++ cs) = skipSpace cs := by
  rw [skipSpace, List.dropWhile_append_of_pos space, skipSpace]

theorem skipSpace_cons (visible : ¬ isSpace c) : skipSpace (c :: cs) = c :: cs :=
  List.dropWhile_cons_of_neg visible

theorem isSpace_of_mem_lineBreak {depth : Nat} (written : c ∈ lineBreak depth) : isSpace c := by
  rcases List.mem_cons.mp written with rfl | blank
  · decide
  · rw [List.eq_of_mem_replicate blank]
    decide

end Space

/-- The characters of a value begin with one that is no white space and ends no list. -/
def StartsValue (cs : List Char) : Prop :=
  ∃ c rest, cs = c :: rest ∧ ¬ isSpace c ∧ c ≠ ']' ∧ c ≠ ',' ∧ c ≠ '}'

theorem StartsValue.skipSpace_eq {cs : List Char} (starts : StartsValue cs) (rest : List Char) :
    skipSpace (cs ++ rest) = cs ++ rest := by
  rcases starts with ⟨c, cs, rfl, visible, _⟩
  exact skipSpace_cons visible

/-! ## Entries of lists and objects -/

section Entries

variable {α : Type} {write : α → List Char} {gap close rest : List Char} {last c : Char}

/-- The entries after the first, with white space before each of them and before the closing
character. -/
def entriesText (write : α → List Char) (gap close : List Char) (last : Char) :
    List α → List Char
  | [] => close ++ [last]
  | x :: xs => ',' :: (gap ++ (write x ++ entriesText write gap close last xs))

theorem endsNumber_cons (other : ¬ isDigit c ∧ c ≠ '.' ∧ c ≠ 'e' ∧ c ≠ 'E') :
    EndsNumber (c :: rest) := by
  intro d head
  rw [List.head?_cons, Option.mem_some] at head
  rwa [← head]

theorem endsNumber_append (space : ∀ c ∈ gap, isSpace c) (ends : EndsNumber rest) :
    EndsNumber (gap ++ rest) := by
  cases gap with
  | nil => exact ends
  | cons s gap =>
    apply endsNumber_cons
    rcases isSpace_iff.mp (space s List.mem_cons_self) with rfl | rfl | rfl | rfl <;> decide

/-- What follows an entry ends a number that the entry is. -/
theorem endsNumber_entriesText (space : ∀ c ∈ close, isSpace c)
    (other : ¬ isDigit last ∧ last ≠ '.' ∧ last ≠ 'e' ∧ last ≠ 'E') (xs : List α) :
    EndsNumber (entriesText write gap close last xs ++ rest) := by
  cases xs with
  | nil =>
    rw [entriesText, List.append_assoc, List.singleton_append]
    exact endsNumber_append space (endsNumber_cons other)
  | cons x xs => exact endsNumber_cons (by decide)

theorem length_lt_length_entriesText (xs : List α) :
    xs.length < (entriesText write gap close last xs).length := by
  induction xs with
  | nil =>
    simp only [entriesText, List.length_append, List.length_cons, List.length_nil]
    omega
  | cons x xs ih =>
    simp only [entriesText, List.length_append, List.length_cons]
    omega

end Entries

/-! ## Lists -/

section Items

variable {α : Type} {item : Reader α} {write : α → List Char} {gap close rest : List Char}

theorem nextItem_close (space : ∀ c ∈ close, isSpace c) (first : Bool) :
    nextItem first (close ++ ']' :: rest) = .ok (.done (']' :: rest)) := by
  rw [nextItem, skipSpace_append space, skipSpace_cons (by decide)]
  rfl

theorem nextItem_first {cs : List Char} (space : ∀ c ∈ gap, isSpace c) (starts : StartsValue cs) :
    nextItem true (gap ++ (cs ++ rest)) = .ok (.item (cs ++ rest)) := by
  have skipped := starts.skipSpace_eq rest
  rcases starts with ⟨c, cs, rfl, _, bracket, comma, _⟩
  rw [nextItem, skipSpace_append space, skipped]
  split
  · next none => cases none
  · next eq => exact absurd (List.cons.inj eq).1 bracket
  · next eq => exact absurd (List.cons.inj eq).1 comma
  · rfl

theorem nextItem_comma {cs : List Char} (space : ∀ c ∈ gap, isSpace c) (starts : StartsValue cs) :
    nextItem false (',' :: (gap ++ (cs ++ rest))) = .ok (.item (cs ++ rest)) := by
  have skipped := starts.skipSpace_eq rest
  rcases starts with ⟨c, cs, rfl, _, bracket, _⟩
  rw [nextItem, skipSpace_cons (by decide)]
  split
  · next none => cases none
  · next eq => exact absurd (List.cons.inj eq).1 (by decide)
  · next eq =>
    cases eq
    rw [if_neg Bool.false_ne_true, skipSpace_append space, skipped]
    split
    · next none => cases none
    · next eq => exact absurd (List.cons.inj eq).1 bracket
    · rfl
  · next other => exact absurd rfl (other _)

theorem items_written (gap_space : ∀ c ∈ gap, isSpace c) (close_space : ∀ c ∈ close, isSpace c)
    {xs : List α} (starts : ∀ x ∈ xs, StartsValue (write x))
    (reads : ∀ x ∈ xs, ∀ rest, EndsNumber rest → item (write x ++ rest) = .ok (x, rest))
    {bound : Nat} (enough : xs.length < bound) (read : List α) :
    items item bound read false (entriesText write gap close ']' xs ++ rest) =
      .ok (read.reverse ++ xs, rest) := by
  induction xs generalizing bound read with
  | nil =>
    obtain ⟨bound, rfl⟩ := Nat.exists_eq_succ_of_ne_zero (Nat.ne_of_gt enough)
    rw [entriesText, List.append_assoc, List.singleton_append, items, nextItem_close close_space,
      List.append_nil]
    rfl
  | cons x xs ih =>
    obtain ⟨bound, rfl⟩ := Nat.exists_eq_succ_of_ne_zero (Nat.ne_of_gt (Nat.zero_lt_of_lt enough))
    rw [List.forall_mem_cons] at starts reads
    rw [entriesText, List.cons_append, List.append_assoc, List.append_assoc, items,
      nextItem_comma gap_space starts.1]
    dsimp only
    rw [reads.1 _ (endsNumber_entriesText close_space (by decide) xs)]
    dsimp only
    rw [ih starts.2 reads.2 (Nat.lt_of_succ_lt_succ enough), List.reverse_cons, List.append_assoc,
      List.singleton_append]

end Items

/-! ## Objects -/

section Members

variable {α : Type} {item : Reader α} {write : α → List Char}
  {gap close colonGap rest : List Char}

/-- A member, with white space after the colon. -/
def memberText (write : α → List Char) (colonGap : List Char) (m : String × α) : List Char :=
  stringText m.1 ++ ':' :: (colonGap ++ write m.2)

theorem nextName_close (space : ∀ c ∈ close, isSpace c) (first : Bool) :
    nextName first (close ++ '}' :: rest) = .ok (.done ('}' :: rest)) := by
  rw [nextName, skipSpace_append space, skipSpace_cons (by decide)]
  rfl

theorem nextName_first (space : ∀ c ∈ gap, isSpace c) :
    nextName true (gap ++ '"' :: rest) = .ok (.item rest) := by
  rw [nextName, skipSpace_append space, skipSpace_cons (by decide)]
  rfl

theorem nextName_comma (space : ∀ c ∈ gap, isSpace c) :
    nextName false (',' :: (gap ++ '"' :: rest)) = .ok (.item rest) := by
  have quote : skipSpace (gap ++ '"' :: rest) = '"' :: rest := by
    rw [skipSpace_append space, skipSpace_cons (by decide)]
  rw [nextName, skipSpace_cons (by decide)]
  split
  · next none => cases none
  · next eq => exact absurd (List.cons.inj eq).1 (by decide)
  · next eq =>
    cases eq
    rw [if_neg Bool.false_ne_true, quote]
    rfl
  · next eq => exact absurd (List.cons.inj eq).1 (by decide)
  · next other _ => exact absurd rfl (other _)

theorem colon_cons (after : List Char) : colon (':' :: after) = .ok after := by
  rw [colon, skipSpace_cons (by decide)]
  rfl

theorem member_written {x : α} {after : List Char} (name : String) (read : List (String × α))
    (value : item (colonGap ++ (write x ++ after)) = .ok (x, after)) :
    addMember item name read (':' :: (colonGap ++ (write x ++ after))) =
      .ok ((name, x) :: read, after) := by
  rw [addMember, afterColon, colon_cons]
  dsimp only
  rw [value]
  rfl

theorem members_written (gap_space : ∀ c ∈ gap, isSpace c) (close_space : ∀ c ∈ close, isSpace c)
    {ms : List (String × α)}
    (reads : ∀ m ∈ ms, ∀ rest, EndsNumber rest →
      item (colonGap ++ (write m.2 ++ rest)) = .ok (m.2, rest))
    {bound : Nat} (enough : ms.length < bound) (read : List (String × α)) :
    members (addMember item) bound read false
        (entriesText (memberText write colonGap) gap close '}' ms ++ rest) =
      .ok (ms.reverse ++ read, rest) := by
  induction ms generalizing bound read with
  | nil =>
    obtain ⟨bound, rfl⟩ := Nat.exists_eq_succ_of_ne_zero (Nat.ne_of_gt enough)
    rw [entriesText, List.append_assoc, List.singleton_append, members, nextName_close close_space]
    rfl
  | cons m ms ih =>
    obtain ⟨bound, rfl⟩ := Nat.exists_eq_succ_of_ne_zero (Nat.ne_of_gt (Nat.zero_lt_of_lt enough))
    rw [List.forall_mem_cons] at reads
    have ends : EndsNumber (entriesText (memberText write colonGap) gap close '}' ms ++ rest) :=
      endsNumber_entriesText close_space (by decide) ms
    simp only [entriesText, memberText, stringText, List.cons_append, List.append_assoc, List.nil_append]
    rw [members, nextName_comma gap_space]
    dsimp only
    rw [string_escaped]
    dsimp only
    rw [member_written m.1 read (reads.1 _ ends)]
    dsimp only
    rw [ih reads.2 (Nat.lt_of_succ_lt_succ enough), List.reverse_cons, List.append_assoc,
      List.singleton_append]

end Members

/-! ## Names that are given once -/

section Distinct

variable {ms kept : List (String × Value)}

theorem insert_of_not_mem {name : String} {v : Value} (new : name ∉ kept.map Prod.fst) :
    insert name v kept = kept ++ [(name, v)] := by
  induction kept with
  | nil => rfl
  | cons m kept ih =>
    rw [List.map_cons, List.mem_cons, not_or] at new
    rw [insert, if_neg (Ne.symm new.1), ih new.2, List.cons_append]

/-- Members with distinct names are kept as they are. -/
theorem collect_of_nodup (distinct : (ms.map Prod.fst).Nodup) : collect ms = ms := by
  suffices all : ∀ kept : List (String × Value), ((kept ++ ms).map Prod.fst).Nodup →
      ms.foldl (fun kept m => insert m.1 m.2 kept) kept = kept ++ ms from all [] distinct
  induction ms with
  | nil => exact fun kept _ => (List.append_nil kept).symm
  | cons m ms ih =>
    intro kept nodup
    have new : m.1 ∉ kept.map Prod.fst := by
      rw [List.map_append, List.nodup_append] at nodup
      exact fun old => nodup.2.2 _ old _ List.mem_cons_self rfl
    have moved : kept ++ m :: ms = kept ++ [(m.1, m.2)] ++ ms := by
      rw [List.append_assoc, List.singleton_append]
    rw [moved] at nodup ⊢
    rw [List.foldl_cons, insert_of_not_mem new]
    exact ih (List.nodup_cons.mp distinct).2 _ nodup

end Distinct

/-! ## Values -/

section Values

variable {d depth : Nat} {v : Value} {cs rest : List Char} {c : Char}

theorem value_append {gap : List Char} (space : ∀ c ∈ gap, isSpace c) :
    value d (gap ++ cs) = value d cs := by
  unfold value
  rw [skipSpace_append space]

theorem value_of_visible (visible : ¬ isSpace c) (array : c ≠ '[') (object : c ≠ '{') :
    value d (c :: cs) = scalar (c :: cs) := by
  have skipped : skipSpace (c :: cs) = c :: cs := skipSpace_cons visible
  rw [value_of_other, skipped]
  · intro after eq
    rw [skipped] at eq
    exact array (List.cons.inj eq).1
  · intro after eq
    rw [skipped] at eq
    exact object (List.cons.inj eq).1

theorem value_string (s : String) : value d (stringText s ++ rest) = .ok (.string s, rest) := by
  rw [stringText, List.cons_append, List.append_assoc, List.singleton_append,
    value_of_visible (by decide) (by decide) (by decide), scalar, string_escaped]
  rfl

theorem not_isSpace_of_starts (starts : c = '-' ∨ isDigit c) : ¬ isSpace c := by
  intro space
  rcases isSpace_iff.mp space with rfl | rfl | rfl | rfl <;>
    exact ne_of_starts starts (by decide) (by decide) rfl

/-- Where a number is read, it is read as a value. -/
theorem value_of_number {n : Number} (starts : c = '-' ∨ isDigit c)
    (read : number (c :: cs) = .ok (n, rest)) : value d (c :: cs) = .ok (.number n, rest) := by
  rw [value_of_visible (not_isSpace_of_starts starts) (ne_of_starts starts (by decide) (by decide))
    (ne_of_starts starts (by decide) (by decide)), scalar, if_pos starts, read]
  · rfl
  · exact ne_of_starts starts (by decide) (by decide)
  · exact ne_of_starts starts (by decide) (by decide)
  · exact ne_of_starts starts (by decide) (by decide)
  · exact ne_of_starts starts (by decide) (by decide)

theorem value_integer {i : Int} (lower : -2 ^ 63 ≤ i) (upper : i < 2 ^ 64) (ends : EndsNumber rest) :
    value d ((toString i).toList ++ rest) = .ok (.number (.integer i), rest) := by
  have read := number_integer lower upper ends
  obtain ⟨c, cs, text, first⟩ := toString_eq_cons i
  rw [text, List.cons_append] at read ⊢
  exact value_of_number first read

section Written

variable {write : Value → List Char} {gap close colonGap : List Char}

/-- An array is read back from its items and the white space between them. -/
theorem value_array_written (gap_space : ∀ c ∈ gap, isSpace c) (close_space : ∀ c ∈ close, isSpace c)
    (v : Value) (vs : List Value) (starts : ∀ v' ∈ v :: vs, StartsValue (write v'))
    (reads : ∀ v' ∈ v :: vs, ∀ rest, EndsNumber rest → value d (write v' ++ rest) = .ok (v', rest)) :
    value (d + 1) ('[' :: (gap ++ (write v ++ (entriesText write gap close ']' vs ++ rest)))) =
      .ok (.array (v :: vs), rest) := by
  rw [List.forall_mem_cons] at starts reads
  rw [value_of_bracket (skipSpace_cons (by decide)), items, nextItem_first gap_space starts.1]
  dsimp only
  rw [reads.1 _ (endsNumber_entriesText close_space (by decide) vs)]
  dsimp only
  rw [items_written gap_space close_space starts.2 reads.2]
  · rfl
  · have := @length_lt_length_entriesText _ write gap close ']' vs
    simp only [List.length_append]
    omega

/-- An object with distinct names is read back from its members and the white space between them. -/
theorem value_object_written (gap_space : ∀ c ∈ gap, isSpace c) (close_space : ∀ c ∈ close, isSpace c)
    (m : String × Value) (ms : List (String × Value)) (distinct : ((m :: ms).map Prod.fst).Nodup)
    (reads : ∀ m' ∈ m :: ms, ∀ rest, EndsNumber rest →
      value d (colonGap ++ (write m'.2 ++ rest)) = .ok (m'.2, rest)) :
    value (d + 1) ('{' :: (gap ++ (memberText write colonGap m ++
        (entriesText (memberText write colonGap) gap close '}' ms ++ rest)))) =
      .ok (.object (m :: ms), rest) := by
  rw [List.forall_mem_cons] at reads
  have ends : EndsNumber (entriesText (memberText write colonGap) gap close '}' ms ++ rest) :=
    endsNumber_entriesText close_space (by decide) ms
  rw [memberText, stringText]
  simp only [List.cons_append, List.append_assoc, List.nil_append]
  rw [value_of_brace (skipSpace_cons (by decide)), members, nextName_first gap_space]
  dsimp only
  rw [string_escaped]
  dsimp only
  rw [member_written m.1 [] (reads.1 _ ends)]
  dsimp only
  rw [members_written gap_space close_space reads.2]
  · rw [Except.map, List.reverse_append, List.reverse_reverse, List.reverse_singleton,
      List.singleton_append, collect_of_nodup distinct]
  · have := @length_lt_length_entriesText _ (memberText write colonGap) gap close '}' ms
    simp only [List.length_append, List.length_cons]
    omega

end Written

end Values

/-! ## Layouts -/

/-- The value holds no items and no members. -/
def Value.IsFlat : Value → Prop
  | .array (_ :: _) | .object (_ :: _) => False
  | _ => True

/-- A way of writing values that differs from others only in its white space: before each entry of a list or
object, before the closing bracket and after a colon. The white space may grow with the depth of writing. -/
structure Layout where
  text : Nat → Value → List Char
  gap : Nat → List Char
  close : Nat → List Char
  colonGap : List Char
  isSpace_gap : ∀ depth, ∀ c ∈ gap depth, isSpace c
  isSpace_close : ∀ depth, ∀ c ∈ close depth, isSpace c
  isSpace_colonGap : ∀ c ∈ colonGap, isSpace c
  flat : ∀ depth v, v.IsFlat → text depth v = scalarText v
  array : ∀ depth v vs, text depth (.array (v :: vs)) =
    '[' :: (gap depth ++ (text (depth + 1) v ++
      entriesText (text (depth + 1)) (gap depth) (close depth) ']' vs))
  object : ∀ depth m ms, text depth (.object (m :: ms)) =
    '{' :: (gap depth ++ (memberText (text (depth + 1)) colonGap m ++
      entriesText (memberText (text (depth + 1)) colonGap) (gap depth) (close depth) '}' ms))

namespace Layout

section Reading

variable (layout : Layout) {d depth : Nat} {v : Value} {rest : List Char}

theorem startsValue_text (readable : Readable d v) (depth : Nat) :
    StartsValue (layout.text depth v) := by
  cases readable with
  | null =>
    rw [layout.flat depth .null trivial]
    exact ⟨'n', _, rfl, by decide⟩
  | @bool _ b =>
    rw [layout.flat depth (.bool b) trivial]
    cases b <;> exact ⟨_, _, rfl, by decide⟩
  | @integer _ i =>
    rw [layout.flat depth (.number (.integer i)) trivial]
    obtain ⟨c, cs, text, first⟩ := toString_eq_cons i
    exact ⟨c, cs, text, not_isSpace_of_starts first, ne_of_starts first (by decide) (by decide),
      ne_of_starts first (by decide) (by decide), ne_of_starts first (by decide) (by decide)⟩
  | string =>
    rw [layout.flat depth (.string _) trivial]
    exact ⟨'"', _, rfl, by decide⟩
  | @array _ vs =>
    cases vs with
    | nil =>
      rw [layout.flat depth (.array []) trivial]
      exact ⟨'[', _, rfl, by decide⟩
    | cons v vs =>
      rw [layout.array]
      exact ⟨'[', _, rfl, by decide⟩
  | @object _ ms =>
    cases ms with
    | nil =>
      rw [layout.flat depth (.object []) trivial]
      exact ⟨'{', _, rfl, by decide⟩
    | cons m ms =>
      rw [layout.object]
      exact ⟨'{', _, rfl, by decide⟩

/-- An array is read back if its items are. -/
theorem value_array (vs : List Value) (depth : Nat)
    (starts : ∀ v ∈ vs, StartsValue (layout.text (depth + 1) v))
    (reads : ∀ v ∈ vs, ∀ rest, EndsNumber rest →
      value d (layout.text (depth + 1) v ++ rest) = .ok (v, rest)) :
    value (d + 1) (layout.text depth (.array vs) ++ rest) = .ok (.array vs, rest) := by
  cases vs with
  | nil =>
    have closed : ∀ c ∈ ([] : List Char), isSpace c := fun _ none => nomatch none
    have text : layout.text depth (.array []) ++ rest = '[' :: ([] ++ ']' :: rest) := by
      rw [layout.flat depth (.array []) trivial]
      rfl
    rw [text, value_of_bracket (skipSpace_cons (by decide)), items, nextItem_close closed]
    rfl
  | cons v vs =>
    rw [layout.array]
    simp only [List.cons_append, List.append_assoc]
    exact value_array_written (layout.isSpace_gap depth) (layout.isSpace_close depth) v vs starts reads

/-- An object is read back if its names are distinct and its values are read back. -/
theorem value_object (ms : List (String × Value)) (depth : Nat) (distinct : (ms.map Prod.fst).Nodup)
    (reads : ∀ m ∈ ms, ∀ rest, EndsNumber rest →
      value d (layout.text (depth + 1) m.2 ++ rest) = .ok (m.2, rest)) :
    value (d + 1) (layout.text depth (.object ms) ++ rest) = .ok (.object ms, rest) := by
  cases ms with
  | nil =>
    have closed : ∀ c ∈ ([] : List Char), isSpace c := fun _ none => nomatch none
    have text : layout.text depth (.object []) ++ rest = '{' :: ([] ++ '}' :: rest) := by
      rw [layout.flat depth (.object []) trivial]
      rfl
    rw [text, value_of_brace (skipSpace_cons (by decide)), members, nextName_close closed]
    rfl
  | cons m ms =>
    have afterColon : ∀ m' ∈ m :: ms, ∀ rest, EndsNumber rest →
        value d (layout.colonGap ++ (layout.text (depth + 1) m'.2 ++ rest)) = .ok (m'.2, rest) := by
      intro m' inList rest ends
      rw [value_append layout.isSpace_colonGap]
      exact reads m' inList rest ends
    rw [layout.object]
    simp only [List.cons_append, List.append_assoc]
    exact value_object_written (layout.isSpace_gap depth) (layout.isSpace_close depth) m ms distinct
      afterColon

/-- A value is read back from its text. -/
theorem value_text (readable : Readable d v) (depth : Nat) (ends : EndsNumber rest) :
    value d (layout.text depth v ++ rest) = .ok (v, rest) := by
  -- The depth of writing grows where the depth that may still be read shrinks.
  induction readable generalizing depth rest with
  | null =>
    have text : layout.text depth .null ++ rest = 'n' :: 'u' :: 'l' :: 'l' :: rest := by
      rw [layout.flat depth .null trivial]
      rfl
    rw [text, value_of_visible (by decide) (by decide) (by decide)]
    rfl
  | @bool _ b =>
    rw [layout.flat depth (.bool b) trivial]
    cases b with
    | true =>
      have text : scalarText (.bool true) ++ rest = 't' :: 'r' :: 'u' :: 'e' :: rest := rfl
      rw [text, value_of_visible (by decide) (by decide) (by decide)]
      rfl
    | false =>
      have text : scalarText (.bool false) ++ rest = 'f' :: 'a' :: 'l' :: 's' :: 'e' :: rest := rfl
      rw [text, value_of_visible (by decide) (by decide) (by decide)]
      rfl
  | integer lower upper =>
    rw [layout.flat depth (.number (.integer _)) trivial]
    exact value_integer lower upper ends
  | string =>
    rw [layout.flat depth (.string _) trivial]
    exact value_string _
  | array each ih =>
    exact layout.value_array _ depth (fun v inList => layout.startsValue_text (each v inList) _)
      fun v inList _ => ih v inList (depth + 1)
  | object distinct each ih =>
    exact layout.value_object _ depth distinct fun m inList _ => ih m inList (depth + 1)

/-- A text that is written for a value is read back as a whole, with any white space behind it. -/
theorem document_text (readable : Readable maxDepth v) {behind : List Char}
    (space : ∀ c ∈ behind, isSpace c) :
    document (String.ofList (layout.text 0 v ++ behind)) = .ok v := by
  have ends : EndsNumber behind := by
    rw [← List.append_nil behind]
    exact endsNumber_append space nofun
  refine whole_eq_ok_iff.mpr ⟨behind, ?_, ?_⟩
  · rw [String.toList_ofList]
    exact layout.value_text readable 0 ends
  · rw [← List.append_nil behind, skipSpace_append space]
    rfl

end Reading

/-! ## The two printers -/

theorem prettyItems_eq (depth : Nat) (vs : List Value) :
    prettyItems depth vs =
      entriesText (prettyText (depth + 1)) (lineBreak (depth + 1)) (lineBreak depth) ']' vs := by
  induction vs with
  | nil => rw [prettyItems, entriesText]
  | cons v vs ih => rw [prettyItems, entriesText, ih]

theorem prettyMembers_eq (depth : Nat) (ms : List (String × Value)) :
    prettyMembers depth ms =
      entriesText (memberText (prettyText (depth + 1)) [' ']) (lineBreak (depth + 1))
        (lineBreak depth) '}' ms := by
  induction ms with
  | nil => rw [prettyMembers, entriesText]
  | cons m ms ih =>
    rw [prettyMembers, entriesText, ih, memberText, List.append_assoc]
    rfl

/-- One entry a line. -/
def onLines : Layout where
  text := prettyText
  gap depth := lineBreak (depth + 1)
  close := lineBreak
  colonGap := [' ']
  isSpace_gap _ _ := isSpace_of_mem_lineBreak
  isSpace_close _ _ := isSpace_of_mem_lineBreak
  isSpace_colonGap := List.forall_mem_singleton.mpr rfl
  flat depth v flat := by
    unfold prettyText
    split
    · exact flat.elim
    · exact flat.elim
    · rfl
  array depth v vs := by rw [prettyText, prettyItems_eq]
  object depth m ms := by
    rw [prettyText, prettyMembers_eq, memberText, List.append_assoc]
    rfl

theorem compactItems_eq (vs : List Value) : compactItems vs = entriesText compactText [] [] ']' vs := by
  induction vs with
  | nil => rw [compactItems, entriesText, List.nil_append]
  | cons v vs ih => rw [compactItems, entriesText, ih, List.nil_append]

theorem compactMembers_eq (ms : List (String × Value)) :
    compactMembers ms = entriesText (memberText compactText []) [] [] '}' ms := by
  induction ms with
  | nil => rw [compactMembers, entriesText, List.nil_append]
  | cons m ms ih =>
    rw [compactMembers, entriesText, ih, memberText, List.append_assoc]
    rfl

/-- No white space at all. -/
def onOneLine : Layout where
  text _ := compactText
  gap _ := []
  close _ := []
  colonGap := []
  isSpace_gap _ _ := nofun
  isSpace_close _ _ := nofun
  isSpace_colonGap _ := nofun
  flat depth v flat := by
    unfold compactText
    split
    · exact flat.elim
    · exact flat.elim
    · rfl
  array depth v vs := by rw [compactText, compactItems_eq, List.nil_append]
  object depth m ms := by
    rw [compactText, compactMembers_eq, memberText, List.append_assoc]
    rfl

end Layout

section Documents

variable {v : Value}

theorem document_pretty (readable : Readable maxDepth v) : document (pretty v) = .ok v := by
  have read := Layout.onLines.document_text readable (List.forall_mem_nil _)
  rwa [List.append_nil] at read

/-- What is printed as a line of its own is read back as well. -/
theorem document_pretty_line (readable : Readable maxDepth v) : document (pretty v ++ "\n") = .ok v := by
  have space : ∀ c ∈ ['\n'], isSpace c := List.forall_mem_singleton.mpr rfl
  have read := Layout.onLines.document_text readable space
  rwa [String.ofList_append] at read

theorem document_compact (readable : Readable maxDepth v) : document (compact v) = .ok v := by
  have read := Layout.onOneLine.document_text readable (List.forall_mem_nil _)
  rwa [List.append_nil] at read

end Documents

end TypedFilters.Json
