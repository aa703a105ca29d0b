import Mathlib.Order.Bounds.Basic
import Mathlib.Order.Interval.Set.Basic
import TypedFilters.Proofs.Time.Zone
import TypedFilters.Time.Zone.Database

/-!
# The search for the offsets of a local second

If the changes of offset are in the order of time, clocks show a second by every offset that
`Zone.localOffsets` finds, and the earliest one is found first (`clock_of_mem_localOffsets`,
`le_of_mem_localOffsets`). The search by halves and the look at the two neighbours find all of them if
clocks, when they are changed, show no more before and after one change than before and after the next
(`mem_localOffsets_iff`): then the spans are in one order in UTC and on the clocks, and only neighbours
overlap. The known zones are like that (`isSpaced_of_mem_database`), but changes that are only in the
order of time do not suffice (`exists_missed`).
-/

namespace TypedFilters

/-! ## What a local time stands for -/

namespace LocalResult

variable {α β : Type} {result : LocalResult α}

/-- All that a local time stands for. -/
def toList : LocalResult α → List α
  | .none => []
  | .single only => [only]
  | .ambiguous earliest latest => [earliest, latest]

theorem head?_toList (result : LocalResult α) : result.toList.head? = result.earliest? := by
  cases result <;> rfl

theorem exists_of_earliest?_andThen {f : α → Option β} {b : β}
    (found : (result.andThen f).earliest? = some b) : ∃ a ∈ result.toList, f a = some b := by
  cases result with
  | none => cases found
  | single only =>
    rw [andThen] at found
    split at found
    · rename_i b' given
      cases found
      exact ⟨only, List.mem_singleton_self only, given⟩
    · cases found
  | ambiguous earliest latest =>
    rw [andThen] at found
    split at found
    · rename_i b' _ given _
      cases found
      exact ⟨earliest, List.mem_cons_self, given⟩
    · cases found

/-- A function that answers for all that a local time stands for is applied to the earliest. -/
theorem earliest?_andThen {f : α → Option β} {g : α → β} (given : ∀ a ∈ result.toList, f a = some (g a)) :
    (result.andThen f).earliest? = result.earliest?.map g := by
  cases result with
  | none => rfl
  | single only =>
    rw [andThen, given only List.mem_cons_self]
    rfl
  | ambiguous earliest latest =>
    rw [andThen, given earliest List.mem_cons_self,
      given latest (List.mem_cons_of_mem _ List.mem_cons_self)]
    rfl

end LocalResult

/-! ## Search by halves -/

section Search

variable {compare : Nat → Ordering} {start stop i : Nat}

theorem binarySearch_eq_some (found : binarySearch compare start stop = some i) :
    i < stop ∧ compare i = .eq := by
  fun_induction binarySearch compare start stop with
  | case1 => cases found
  | case2 start stop more half after ih =>
    obtain ⟨lt, equal⟩ := ih found
    exact ⟨by omega, equal⟩
  | case3 start stop more half equal =>
    obtain rfl : half = i := Option.some.inj found
    exact ⟨by omega, equal⟩
  | case4 start stop more half before ih => exact ih found

/-- If nothing is found, then nothing compares as equal, provided that this is excluded up to where the
comparison says that the search is too early and from where it says that the search is too late. -/
theorem binarySearch_eq_none (before : ∀ i j, j ≤ i → compare i = .lt → compare j ≠ .eq)
    (after : ∀ i j, i ≤ j → j < stop → compare i = .gt → compare j ≠ .eq)
    (missing : binarySearch compare start stop = none) (start_le : start ≤ i) (lt_stop : i < stop) :
    compare i ≠ .eq := by
  fun_induction binarySearch compare start stop with
  | case1 => omega
  | case2 start stop more half late ih =>
    rcases lt_or_ge i half with lt_half | half_le
    · exact ih (fun i j le lt => after i j le (by omega)) missing start_le lt_half
    · exact after half i half_le lt_stop late
  | case3 => cases missing
  | case4 start stop more half early ih =>
    rcases le_or_gt i half with le_half | half_lt
    · exact before half i le_half early
    · exact ih after missing half_lt lt_stop

end Search

/-! ## Spans -/

section Spans

variable {span : Span} {x : Int}

theorem Span.contains_iff : span.contains x ↔
    (∀ start ∈ span.start?, start ≤ x) ∧ ∀ stop ∈ span.stop?, x < stop := by
  simp only [contains, Bool.and_eq_true, Option.all_eq_true, decide_eq_true_iff, Option.mem_def]

theorem Span.compare_eq_iff : span.compare x = .eq ↔ span.contains x := by
  rw [compare]
  split
  · exact iff_of_true rfl ‹_›
  · refine iff_of_false ?_ ‹_›
    split <;> decide

theorem Span.exists_of_compare_lt (less : span.compare x = .lt) : ∃ stop ∈ span.stop?, stop ≤ x := by
  rw [compare] at less
  split at less
  · cases less
  · split at less
    · rename_i past
      obtain ⟨stop, isStop, le⟩ := (Option.any_eq_true _ _).mp (Bool.and_elim_right past)
      exact ⟨stop, isStop, of_decide_eq_true le⟩
    · cases less

theorem Span.exists_of_compare_gt (greater : span.compare x = .gt) :
    ∃ start ∈ span.start?, x < start := by
  by_contra begun
  simp only [not_exists, not_and, not_lt] at begun
  have all : span.start?.all (· ≤ x) :=
    (Option.all_eq_true _ _).mpr fun start isStart => decide_eq_true (begun start isStart)
  rw [compare, contains, all, Bool.true_and, Bool.true_and] at greater
  cases isStop : span.stop? with
  | none =>
    rw [isStop] at greater
    cases greater
  | some stop =>
    rw [isStop, Option.all_some, Option.any_some] at greater
    rcases lt_or_ge x stop with before | after
    · rw [if_pos (decide_eq_true before)] at greater
      cases greater
    · rw [if_neg (by simpa using after), if_pos (decide_eq_true after)] at greater
      cases greater

end Spans

namespace Zone

variable {zone : Zone} {shown utc o o' : Int} {i j : Nat}

/-! ## Sound answers -/

theorem contains_localSpan_iff :
    (zone.localSpan i).contains shown ↔ zone.InSpan i (shown - zone.spanOffset i) := by
  simp only [Span.contains_iff, InSpan, localSpan, Option.mem_def, Option.map_eq_some_iff,
    forall_exists_index, and_imp, forall_apply_eq_imp_iff₂, le_sub_iff_add_le, sub_lt_iff_lt_add]

/-- Clocks show a second by the offset of each span that contains it. -/
theorem clock_of_contains (chronological : zone.IsChronological) (inside : i ≤ zone.changes.length)
    (within : (zone.localSpan i).contains shown) : zone.clock (shown - zone.spanOffset i) = shown := by
  rw [clock, offsetAt_of_inSpan chronological inside (contains_localSpan_iff.mp within),
    sub_add_cancel]

theorem exists_contains (shows : zone.clock utc = shown) :
    ∃ i ≤ zone.changes.length, (zone.localSpan i).contains shown ∧ utc = shown - zone.spanOffset i := by
  obtain ⟨i, inside, within, holds⟩ := exists_inSpan zone utc
  rw [clock, holds] at shows
  obtain rfl : utc = shown - zone.spanOffset i := by omega
  exact ⟨i, inside, contains_localSpan_iff.mpr within, rfl⟩

/-- The offset of the earlier of two spans is the larger one, as both show the second. -/
theorem lt_of_contains (chronological : zone.IsChronological) (less : i < j)
    (inside : j ≤ zone.changes.length) (early : (zone.localSpan i).contains shown)
    (late : (zone.localSpan j).contains shown) : zone.spanOffset j < zone.spanOffset i := by
  have order := lt_of_inSpan chronological less inside (contains_localSpan_iff.mp early)
    (contains_localSpan_iff.mp late)
  omega

/-- An answer names one span that contains the second, or two neighbours that do. -/
def Names (zone : Zone) (shown : Int) : LocalResult Int → Prop
  | .none => True
  | .single only =>
    ∃ i ≤ zone.changes.length, (zone.localSpan i).contains shown ∧ only = zone.spanOffset i
  | .ambiguous earliest latest => ∃ i < zone.changes.length,
    ((zone.localSpan i).contains shown ∧ earliest = zone.spanOffset i) ∧
      (zone.localSpan (i + 1)).contains shown ∧ latest = zone.spanOffset (i + 1)

theorem names_offsetsAround (inside : i ≤ zone.changes.length)
    (within : (zone.localSpan i).contains shown) : zone.Names shown (zone.offsetsAround shown i) := by
  rw [offsetsAround]
  split
  · rename_i before
    obtain ⟨i, rfl⟩ := Nat.exists_eq_succ_of_ne_zero (Nat.ne_zero_of_lt before.1)
    exact ⟨i, inside, ⟨before.2, rfl⟩, within, rfl⟩
  · split
    · rename_i after
      exact ⟨i, after.1, ⟨within, rfl⟩, after.2, rfl⟩
    · exact ⟨i, inside, within, rfl⟩

theorem names_localOffsets (zone : Zone) (shown : Int) :
    zone.Names shown (zone.localOffsets shown) := by
  rw [localOffsets]
  split
  · exact trivial
  · rename_i i found
    obtain ⟨lt, equal⟩ := binarySearch_eq_some found
    exact names_offsetsAround (Nat.le_of_lt_succ lt) (Span.compare_eq_iff.mp equal)

/-- Clocks show the second by every offset that is found. -/
theorem clock_of_mem_localOffsets (chronological : zone.IsChronological)
    (found : o ∈ (zone.localOffsets shown).toList) : zone.clock (shown - o) = shown := by
  have names := names_localOffsets zone shown
  generalize zone.localOffsets shown = answer at found names
  cases answer with
  | none => cases found
  | single only =>
    obtain rfl := List.mem_singleton.mp found
    obtain ⟨i, inside, within, rfl⟩ := names
    exact clock_of_contains chronological inside within
  | ambiguous earliest latest =>
    obtain ⟨i, inside, ⟨within, rfl⟩, within', rfl⟩ := names
    rcases List.mem_pair.mp found with rfl | rfl
    · exact clock_of_contains chronological inside.le within
    · exact clock_of_contains chronological inside within'

/-- No offset that is found is larger than the one that is found first. -/
theorem le_of_mem_localOffsets (chronological : zone.IsChronological)
    (first : (zone.localOffsets shown).earliest? = some o)
    (found : o' ∈ (zone.localOffsets shown).toList) : o' ≤ o := by
  have names := names_localOffsets zone shown
  generalize zone.localOffsets shown = answer at first found names
  cases answer with
  | none => cases found
  | single only =>
    cases first
    exact (List.mem_singleton.mp found).le
  | ambiguous earliest latest =>
    cases first
    obtain ⟨i, inside, ⟨within, rfl⟩, within', rfl⟩ := names
    rcases List.mem_pair.mp found with rfl | rfl
    · exact le_rfl
    · exact (lt_of_contains chronological (Nat.lt_succ_self i) inside within within').le

/-! ## Complete answers -/

/-- What clocks show when they are changed: by the offset before the change, and by the one after it. -/
structure Turn where
  before : Int
  after : Int

/-- Clocks show no more before and after one change than before and after another. -/
def Turn.Precedes (earlier later : Turn) : Prop :=
  max earlier.before earlier.after ≤ min later.before later.after

instance : DecidableRel Turn.Precedes :=
  fun earlier later =>
    inferInstanceAs (Decidable (max earlier.before earlier.after ≤ min later.before later.after))

instance : IsTrans Turn Turn.Precedes :=
  ⟨fun _ _ _ left right => (left.trans min_le_max).trans right⟩

/-- What clocks show at the changes of a zone. -/
def turns (zone : Zone) : List Turn :=
  zone.changes.zipWith (fun change before => ⟨change.since + before, change.since + change.offset⟩)
    zone.offsets

/-- Clocks show no more around one change than around the next. -/
def IsSpaced (zone : Zone) : Prop :=
  zone.turns.IsChain Turn.Precedes

instance (zone : Zone) : Decidable zone.IsSpaced :=
  inferInstanceAs (Decidable (zone.turns.IsChain Turn.Precedes))

theorem getElem?_turns (zone : Zone) (i : Nat) : zone.turns[i]? =
    zone.changes[i]?.map fun change =>
      ⟨change.since + zone.spanOffset i, change.since + zone.spanOffset (i + 1)⟩ := by
  cases here : zone.changes[i]? with
  | none =>
    rw [turns, List.getElem?_zipWith, here]
    rfl
  | some change =>
    have inside : i < zone.changes.length := (List.getElem?_eq_some_iff.mp here).1
    have inside' : i < zone.offsets.length := by
      rw [offsets, List.length_cons, List.length_map]
      omega
    have after : zone.spanOffset (i + 1) = change.offset := by
      rw [spanOffset, offsets, List.getD_cons_succ, List.getD_eq_getElem?_getD, List.getElem?_map, here]
      rfl
    have before : zone.offsets[i]? = some (zone.spanOffset i) := by
      rw [spanOffset, List.getD_eq_getElem _ _ inside', List.getElem?_eq_getElem]
    rw [turns, List.getElem?_zipWith, here, before, after]
    rfl

theorem stop?_localSpan (zone : Zone) (i : Nat) :
    (zone.localSpan i).stop? = zone.turns[i]?.map Turn.before := by
  rw [getElem?_turns, Option.map_map]
  exact Option.map_map _ _ _

theorem start?_localSpan_succ (zone : Zone) (i : Nat) :
    (zone.localSpan (i + 1)).start? = zone.turns[i]?.map Turn.after := by
  rw [getElem?_turns, Option.map_map]
  exact Option.map_map _ _ _

theorem length_turns (zone : Zone) : zone.turns.length = zone.changes.length := by
  rw [turns, List.length_zipWith, offsets, List.length_cons, List.length_map]
  exact Nat.min_eq_left (Nat.le_succ _)

/-- A span that contains a second stops after it. -/
theorem lt_before_of_contains {turn : Turn} (within : (zone.localSpan i).contains shown)
    (here : zone.turns[i]? = some turn) : shown < turn.before := by
  refine (Span.contains_iff.mp within).2 turn.before ?_
  rw [stop?_localSpan, here]
  rfl

/-- A span that contains a second does not start after it. -/
theorem after_le_of_contains {turn : Turn} (within : (zone.localSpan (i + 1)).contains shown)
    (here : zone.turns[i]? = some turn) : turn.after ≤ shown := by
  refine (Span.contains_iff.mp within).1 turn.after ?_
  rw [start?_localSpan_succ, here]
  rfl

namespace IsSpaced

/-- Clocks show no more around an earlier change than around a later one. -/
theorem precedes (spaced : zone.IsSpaced) {turn turn' : Turn} (less : i < j)
    (earlier : zone.turns[i]? = some turn) (later : zone.turns[j]? = some turn') :
    max turn.before turn.after ≤ min turn'.before turn'.after := by
  obtain ⟨inside, rfl⟩ := List.getElem?_eq_some_iff.mp earlier
  obtain ⟨inside', rfl⟩ := List.getElem?_eq_some_iff.mp later
  exact List.pairwise_iff_getElem.mp (List.isChain_iff_pairwise.mp spaced) i j inside inside' less

theorem isChronological (spaced : zone.IsSpaced) : zone.IsChronological := by
  refine List.isChain_iff_getElem.mpr fun i inside => ?_
  have earlier := getElem?_turns zone i
  have later := getElem?_turns zone (i + 1)
  rw [List.getElem?_eq_getElem (Nat.lt_of_succ_lt inside)] at earlier
  rw [@List.getElem?_eq_getElem _ zone.changes _ inside] at later
  have order := spaced.precedes (Nat.lt_succ_self i) earlier later
  simp only [max_le_iff, le_min_iff] at order
  omega

/-- No span before one that stops before a second contains it. -/
theorem not_contains_of_stop_le (spaced : zone.IsSpaced) (le : j ≤ i) {stop : Int}
    (stops : stop ∈ (zone.localSpan i).stop?) (stop_le : stop ≤ shown) :
    ¬ (zone.localSpan j).contains shown := by
  intro within
  rw [stop?_localSpan] at stops
  obtain ⟨turn, isTurn, rfl⟩ := Option.map_eq_some_iff.mp stops
  have inside : j < zone.turns.length := le.trans_lt (List.getElem?_eq_some_iff.mp isTurn).1
  have isTurn' := List.getElem?_eq_getElem inside
  have lt_before := lt_before_of_contains within isTurn'
  rcases Nat.lt_or_eq_of_le le with less | rfl
  · have order := spaced.precedes less isTurn' isTurn
    omega
  · obtain rfl := Option.some.inj (isTurn.symm.trans isTurn')
    omega

/-- No span after one that starts after a second contains it. -/
theorem not_contains_of_lt_start (spaced : zone.IsSpaced) (le : i ≤ j)
    (inside : j ≤ zone.changes.length) {start : Int} (starts : start ∈ (zone.localSpan i).start?)
    (lt_start : shown < start) : ¬ (zone.localSpan j).contains shown := by
  intro within
  cases i with
  | zero => cases starts
  | succ i =>
    obtain ⟨j, rfl⟩ := Nat.exists_eq_succ_of_ne_zero (Nat.ne_zero_of_lt le)
    rw [start?_localSpan_succ] at starts
    obtain ⟨turn, isTurn, rfl⟩ := Option.map_eq_some_iff.mp starts
    rw [← length_turns] at inside
    have isTurn' := List.getElem?_eq_getElem inside
    have after_le := after_le_of_contains within isTurn'
    rcases Nat.lt_or_eq_of_le (Nat.le_of_succ_le_succ le) with less | rfl
    · have order := spaced.precedes less isTurn isTurn'
      omega
    · obtain rfl := Option.some.inj (isTurn.symm.trans isTurn')
      omega

/-- Only neighbours overlap. -/
theorem not_contains_of_two_apart (spaced : zone.IsSpaced) (apart : i + 1 < j)
    (inside : j ≤ zone.changes.length) (within : (zone.localSpan i).contains shown) :
    ¬ (zone.localSpan j).contains shown := by
  intro within'
  obtain ⟨j, rfl⟩ := Nat.exists_eq_succ_of_ne_zero (Nat.ne_zero_of_lt apart)
  have less : i < j := Nat.lt_of_succ_lt_succ apart
  rw [← length_turns] at inside
  have isTurn := List.getElem?_eq_getElem (less.trans inside)
  have isTurn' := List.getElem?_eq_getElem inside
  have lt_before := lt_before_of_contains within isTurn
  have after_le := after_le_of_contains within' isTurn'
  have order := spaced.precedes less isTurn isTurn'
  omega

/-- The search ends in a span that contains the second if there is one. -/
theorem exists_localOffsets_eq (spaced : zone.IsSpaced) (inside : i ≤ zone.changes.length)
    (within : (zone.localSpan i).contains shown) :
    ∃ k ≤ zone.changes.length, (zone.localSpan k).contains shown ∧
      zone.localOffsets shown = zone.offsetsAround shown k := by
  rw [localOffsets]
  cases found : binarySearch (fun i => (zone.localSpan i).compare shown) 0
      (zone.changes.length + 1) with
  | none =>
    refine absurd (Span.compare_eq_iff.mpr within)
      (binarySearch_eq_none ?_ ?_ found (Nat.zero_le i) (Nat.lt_succ_of_le inside))
    · intro k j le less equal
      obtain ⟨stop, stops, stop_le⟩ := Span.exists_of_compare_lt less
      exact spaced.not_contains_of_stop_le le stops stop_le (Span.compare_eq_iff.mp equal)
    · intro k j le inside greater equal
      obtain ⟨start, starts, lt_start⟩ := Span.exists_of_compare_gt greater
      exact spaced.not_contains_of_lt_start le (Nat.le_of_lt_succ inside) starts lt_start
        (Span.compare_eq_iff.mp equal)
  | some k =>
    obtain ⟨lt, equal⟩ := binarySearch_eq_some found
    exact ⟨k, Nat.le_of_lt_succ lt, Span.compare_eq_iff.mp equal, rfl⟩

/-- Around a span that contains the second, the offset of each one that does is found. -/
theorem spanOffset_mem_offsetsAround (spaced : zone.IsSpaced) (inside : i ≤ zone.changes.length)
    (within : (zone.localSpan i).contains shown) (inside' : j ≤ zone.changes.length)
    (within' : (zone.localSpan j).contains shown) :
    zone.spanOffset j ∈ (zone.offsetsAround shown i).toList := by
  have near : j + 1 = i ∨ j = i ∨ j = i + 1 := by
    by_contra far
    rcases lt_or_ge j i with less | ge
    · exact spaced.not_contains_of_two_apart (by omega) inside within' within
    · exact spaced.not_contains_of_two_apart (by omega) inside' within within'
  rw [offsetsAround]
  rcases near with rfl | rfl | rfl
  · rw [if_pos ⟨Nat.succ_pos j, within'⟩]
    exact List.mem_cons_self
  · split
    · exact List.mem_cons_of_mem _ List.mem_cons_self
    · split <;> exact List.mem_cons_self
  · have first : ¬ (0 < i ∧ (zone.localSpan (i - 1)).contains shown) := by
      intro before
      exact spaced.not_contains_of_two_apart (by omega) inside' before.2 within'
    rw [if_neg first, if_pos ⟨inside', within'⟩]
    exact List.mem_cons_of_mem _ List.mem_cons_self

end IsSpaced

/-- Clocks that are never changed show each second once. -/
theorem localOffsets_of_no_changes (name : String) (offset : Int) :
    localOffsets ⟨name, offset, []⟩ shown = .single offset := by
  have spaced : IsSpaced ⟨name, offset, []⟩ := List.IsChain.nil
  have within : (localSpan ⟨name, offset, []⟩ 0).contains shown := rfl
  obtain ⟨k, inside, _, found⟩ := spaced.exists_localOffsets_eq (Nat.zero_le _) within
  obtain rfl := Nat.le_zero.mp inside
  exact found

/-- The search finds exactly the offsets by which clocks show the second. -/
theorem mem_localOffsets_iff (spaced : zone.IsSpaced) :
    o ∈ (zone.localOffsets shown).toList ↔ zone.clock (shown - o) = shown := by
  refine ⟨clock_of_mem_localOffsets spaced.isChronological, fun shows => ?_⟩
  obtain ⟨i, inside, within, instant⟩ := exists_contains shows
  obtain rfl : o = zone.spanOffset i := by omega
  obtain ⟨k, inside', within', found⟩ := spaced.exists_localOffsets_eq inside within
  rw [found]
  exact spaced.spanOffset_mem_offsetsAround inside' within' inside within

/-- The offset that is found first gives the earliest instant at which clocks show the second. -/
theorem earliest?_localOffsets_eq_some_iff (spaced : zone.IsSpaced) :
    (zone.localOffsets shown).earliest? = some o ↔
      IsLeast {utc | zone.clock utc = shown} (shown - o) := by
  have least : ∀ o, (zone.localOffsets shown).earliest? = some o →
      IsLeast {utc | zone.clock utc = shown} (shown - o) := by
    intro o first
    have found := List.mem_of_head? ((LocalResult.head?_toList _).trans first)
    refine ⟨(mem_localOffsets_iff spaced).mp found, fun utc shows => ?_⟩
    have found' : shown - utc ∈ (zone.localOffsets shown).toList :=
      (mem_localOffsets_iff spaced).mpr (by rwa [sub_sub_cancel])
    have := le_of_mem_localOffsets spaced.isChronological first found'
    omega
  refine ⟨least o, fun isLeast => ?_⟩
  have found := (mem_localOffsets_iff spaced).mpr isLeast.1
  cases first : (zone.localOffsets shown).earliest? with
  | none =>
    rw [← LocalResult.head?_toList, List.head?_eq_none_iff] at first
    rw [first] at found
    cases found
  | some o' =>
    have same := (least o' first).unique isLeast
    rw [sub_right_inj.mp same]

theorem exists_isLeast (spaced : zone.IsSpaced) (shows : zone.clock utc = shown) :
    ∃ least, IsLeast {utc | zone.clock utc = shown} least := by
  have found : shown - utc ∈ (zone.localOffsets shown).toList :=
    (mem_localOffsets_iff spaced).mpr (by rwa [sub_sub_cancel])
  cases first : (zone.localOffsets shown).earliest? with
  | none =>
    rw [← LocalResult.head?_toList, List.head?_eq_none_iff] at first
    rw [first] at found
    cases found
  | some o => exact ⟨_, (earliest?_localOffsets_eq_some_iff spaced).mp first⟩

/-- Changes that are only in the order of time do not suffice: clocks may show a second that the search
misses. -/
theorem exists_missed : ∃ zone : Zone, zone.IsChronological ∧
    ∃ utc shown, zone.clock utc = shown ∧ zone.localOffsets shown = .none :=
  ⟨⟨"", 0, [⟨0, -3600⟩, ⟨1800, 0⟩]⟩, by decide, -900, -900, by decide, by decide +kernel⟩

/-- The known zones are such that the search finds all offsets. -/
theorem isSpaced_of_mem_database : ∀ zone ∈ database, zone.IsSpaced := by
  decide +kernel

end Zone

end TypedFilters
