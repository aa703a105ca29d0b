import Mathlib.Algebra.Order.BigOperators.Group.List
import Mathlib.Algebra.Order.Group.Int
import Mathlib.Algebra.Order.Group.Abs
import Mathlib.Data.List.Chain
import Mathlib.Data.List.GetD
import TypedFilters.Time.Zone

/-!
# What the clocks of a zone show

A clock of a zone is ahead of UTC by the offset of the span in which the instant lies (`Zone.clock`).
Every instant lies in a span (`exists_inSpan`); if the changes of offset are in the order of time, then
in one only, and its offset is the one that holds (`offsetAt_of_inSpan`). Clocks may show a second several
times, and may skip it: they were put forward over every second that they never show (`isGap_iff`).
-/

namespace TypedFilters.Zone

/-- The changes of offset are in the order of time. -/
def IsChronological (zone : Zone) : Prop :=
  zone.changes.IsChain fun earlier later => earlier.since ≤ later.since

instance (zone : Zone) : Decidable zone.IsChronological :=
  inferInstanceAs (Decidable (zone.changes.IsChain _))

/-- The second that clocks of the zone show at an instant. -/
def clock (zone : Zone) (utc : Int) : Int :=
  utc + zone.offsetAt utc

/-- An instant is not before the start of a span and before the start of the next one. -/
def InSpan (zone : Zone) (i : Nat) (utc : Int) : Prop :=
  (∀ start ∈ zone.spanStart? i, start ≤ utc) ∧ ∀ stop ∈ zone.spanStart? (i + 1), utc < stop

/-- Clocks are put forward over a second, and show it at no other time either. -/
structure IsGap (zone : Zone) (shown : Int) : Prop where
  skipped : ∃ utc, zone.clock (utc - 1) < shown ∧ shown < zone.clock utc
  never : ∀ utc, zone.clock utc ≠ shown

/-! ## Offsets -/

section Offsets

variable {name : String} {offset utc : Int} {change : OffsetChange} {changes : List OffsetChange}

theorem offsetAt_cons_of_lt (before : utc < change.since) :
    offsetAt ⟨name, offset, change :: changes⟩ utc = offset := by
  have notYet : ¬ decide (change.since ≤ utc) = true := by
    rw [decide_eq_true_iff]
    omega
  have none : (change :: changes).takeWhile (fun c => c.since ≤ utc) = [] :=
    List.takeWhile_cons_of_neg notYet
  rw [offsetAt, none]
  rfl

/-- From its first change on, a zone is like the one that begins with the offset after it. -/
theorem offsetAt_cons_of_le (after : change.since ≤ utc) :
    offsetAt ⟨name, offset, change :: changes⟩ utc = offsetAt ⟨name, change.offset, changes⟩ utc := by
  have first : (change :: changes).takeWhile (fun c => c.since ≤ utc) =
      change :: changes.takeWhile (fun c => c.since ≤ utc) :=
    List.takeWhile_cons_of_pos (decide_eq_true after)
  rw [offsetAt, offsetAt, first, List.getLast?_cons, Option.map_some, Option.getD_some]
  cases (changes.takeWhile fun c => c.since ≤ utc).getLast? <;> rfl

theorem offsetAt_mem_offsets (zone : Zone) (utc : Int) : zone.offsetAt utc ∈ zone.offsets := by
  rcases zone with ⟨name, offset, changes⟩
  induction changes generalizing offset with
  | nil => exact List.mem_cons_self
  | cons change changes ih =>
    rcases lt_or_ge utc change.since with before | after
    · rw [offsetAt_cons_of_lt before]
      exact List.mem_cons_self
    · rw [offsetAt_cons_of_le after]
      exact List.mem_cons_of_mem offset (ih change.offset)

/-- The offsets of a zone do not get arbitrarily large. -/
theorem exists_offset_bound (zone : Zone) : ∃ bound, ∀ utc, |zone.offsetAt utc| ≤ bound := by
  refine ⟨(zone.offsets.map abs).sum, fun utc => ?_⟩
  refine List.single_le_sum ?_ _ (List.mem_map_of_mem (offsetAt_mem_offsets zone utc))
  intro size among
  obtain ⟨o, _, rfl⟩ := List.mem_map.mp among
  exact abs_nonneg o

end Offsets

/-! ## Spans -/

section Spans

variable {name : String} {offset utc utc' shown : Int} {change : OffsetChange}
  {changes : List OffsetChange} {zone : Zone} {i j : Nat}

theorem spanOffset_cons_succ (inside : i ≤ changes.length) :
    spanOffset ⟨name, offset, change :: changes⟩ (i + 1) =
      spanOffset ⟨name, change.offset, changes⟩ i := by
  have known : i < ((change :: changes).map OffsetChange.offset).length := by
    rw [List.length_map]
    exact Nat.lt_succ_of_le inside
  exact (List.getD_eq_getElem _ offset known).trans (List.getD_eq_getElem _ change.offset known).symm

/-- From the first change on, the spans are those of the zone that begins with the offset after it. -/
theorem inSpan_cons_succ (after : change.since ≤ utc) :
    InSpan ⟨name, offset, change :: changes⟩ (i + 1) utc ↔
      InSpan ⟨name, change.offset, changes⟩ i utc := by
  cases i with
  | zero =>
    refine and_congr_left fun _ => ⟨fun _ => nofun, fun _ => ?_⟩
    rintro _ ⟨⟩
    exact after
  | succ i => exact Iff.rfl

/-- Every instant lies in the span whose offset holds. -/
theorem exists_inSpan (zone : Zone) (utc : Int) :
    ∃ i ≤ zone.changes.length, zone.InSpan i utc ∧ zone.offsetAt utc = zone.spanOffset i := by
  rcases zone with ⟨name, offset, changes⟩
  induction changes generalizing offset with
  | nil => exact ⟨0, le_rfl, ⟨nofun, nofun⟩, rfl⟩
  | cons change changes ih =>
    rcases lt_or_ge utc change.since with before | after
    · refine ⟨0, Nat.zero_le _, ⟨nofun, ?_⟩, offsetAt_cons_of_lt before⟩
      rintro _ ⟨⟩
      exact before
    · obtain ⟨i, inside, within, holds⟩ := ih change.offset
      refine ⟨i + 1, Nat.succ_le_succ inside, (inSpan_cons_succ after).mpr within, ?_⟩
      rw [offsetAt_cons_of_le after, holds, spanOffset_cons_succ inside]

/-- The instants of an earlier span are before those of a later one. -/
theorem lt_of_inSpan (chronological : zone.IsChronological) (less : i < j)
    (inside : j ≤ zone.changes.length) (early : zone.InSpan i utc) (late : zone.InSpan j utc') :
    utc < utc' := by
  obtain ⟨j, rfl⟩ := Nat.exists_eq_succ_of_ne_zero (Nat.ne_zero_of_lt less)
  have before := early.2 zone.changes[i].since (by rw [spanStart?, List.getElem?_eq_getElem]; rfl)
  have after := late.1 zone.changes[j].since (by rw [spanStart?, List.getElem?_eq_getElem]; rfl)
  have order : zone.changes[i].since ≤ zone.changes[j].since := by
    rcases Nat.lt_or_eq_of_le (Nat.le_of_lt_succ less) with less | rfl
    · have pairwise := List.isChain_iff_pairwise.mp chronological
      exact List.pairwise_iff_getElem.mp pairwise i j (by omega) inside less
    · exact le_rfl
  omega

theorem offsetAt_of_inSpan (chronological : zone.IsChronological) (inside : i ≤ zone.changes.length)
    (within : zone.InSpan i utc) : zone.offsetAt utc = zone.spanOffset i := by
  obtain ⟨j, inside', within', holds⟩ := exists_inSpan zone utc
  rcases lt_trichotomy i j with less | rfl | greater
  · exact absurd (lt_of_inSpan chronological less inside' within within') (lt_irrefl utc)
  · exact holds
  · exact absurd (lt_of_inSpan chronological greater inside within' within) (lt_irrefl utc)

end Spans

/-! ## Gaps -/

section Gaps

variable {zone : Zone} {shown : Int}

/-- Clocks show early seconds before late ones, so they come past every second or are put forward over
it. -/
theorem isGap_iff : zone.IsGap shown ↔ ∀ utc, zone.clock utc ≠ shown := by
  refine ⟨IsGap.never, fun never => ⟨?_, never⟩⟩
  obtain ⟨bound, small⟩ := exists_offset_bound zone
  by_contra forward
  simp only [not_exists, not_and, not_lt] at forward
  -- Far in the past clocks show less than the second, and then never come past it.
  have behind : ∀ utc, shown - bound - 1 ≤ utc → zone.clock utc < shown := by
    intro utc later
    induction utc, later using Int.leInduction with
    | base =>
      have := abs_le.mp (small (shown - bound - 1))
      rw [clock]
      omega
    | succ utc _ ih =>
      have step := forward (utc + 1)
      rw [add_sub_cancel_right] at step
      exact lt_of_le_of_ne (step ih) (never (utc + 1))
  have nonneg := (abs_nonneg _).trans (small 0)
  have late := behind (shown + bound) (by omega)
  have := abs_le.mp (small (shown + bound))
  rw [clock] at late
  omega

end Gaps

end TypedFilters.Zone
