import Mathlib.Data.List.Forall2
import TypedFilters.Proofs.Intake.Resolve
import TypedFilters.Proofs.Json.Reading

/-!
# Lists are taken in as a whole

A list of filters is accepted or refused as a whole. `TextLaw` says in which order the checks of the
whole list are made and when each of them refuses, and `Decides` says how the items decide when all
these checks are passed: either every item gives its filter, or the first item that is refused decides,
whatever comes after it. It leaves exactly one result (`decides_iff`). `taken_in_as_a_whole` proves the
law of all three ways of taking in a list.
-/

namespace TypedFilters.Intake

/-! ## The law -/

/-- The items of a list decide the result: every item gives its filter, in order, or the refusal is
that of the first item that is refused, with its index. -/
inductive Decides {α : Type} (one : α → Except FilterError Filter) :
    List α → Except FilterError (List Filter) → Prop
  | accepted {items : List α} {filters : List Filter}
      (each : List.Forall₂ (fun item filter => one item = .ok filter) items filters) :
      Decides one items (.ok filters)
  | refused {front : List α} {item : α} {back : List α} {e : FilterError}
      (before : ∀ earlier ∈ front, ∃ filter, one earlier = .ok filter)
      (alone : one item = .error e) :
      Decides one (front ++ item :: back) (.error (e.atIndex front.length))

/-- The result is a refusal with a code. -/
def HasCode (code : String) (result : Except FilterError (List Filter)) : Prop :=
  ∃ e, result = .error e ∧ e.code = code

/-- The result is a refusal with a code that names neither a descriptor nor a field. -/
def RefusedAsWhole (code : String) (result : Except FilterError (List Filter)) : Prop :=
  ∃ e, result = .error e ∧ e.code = code ∧ e.index? = none ∧ e.field? = none

/-- A list with too many items is refused as a whole, and no other list is refused for that; the items
of a list within the limit decide. Nothing is refused for the size of a text. -/
structure CountLaw {α : Type} (intake : Intake) (one : α → Except FilterError Filter)
    (items : List α) (result : Except FilterError (List Filter)) : Prop where
  tooMany : intake.limits.maxFilters < items.length → RefusedAsWhole "TOO_MANY_FILTERS" result
  only_tooMany : HasCode "TOO_MANY_FILTERS" result → intake.limits.maxFilters < items.length
  never_tooLarge : ¬ HasCode "FILTER_JSON_TOO_LARGE" result
  decided : items.length ≤ intake.limits.maxFilters → Decides one items result

/-- A text that is too large is refused as a whole, and no other text is refused for that. A text
within the limit is the empty list if it is blank, and is else refused as a whole if it is no JSON
array. The items of an array follow the law of counted lists. -/
structure TextLaw (intake : Intake) (one : Json.Value → Except FilterError Filter) (text : String)
    (result : Except FilterError (List Filter)) : Prop where
  tooLarge : intake.limits.maxJsonBytes < text.utf8ByteSize →
    RefusedAsWhole "FILTER_JSON_TOO_LARGE" result
  only_tooLarge : HasCode "FILTER_JSON_TOO_LARGE" result →
    intake.limits.maxJsonBytes < text.utf8ByteSize
  blank : text.utf8ByteSize ≤ intake.limits.maxJsonBytes → Text.isBlank text → result = .ok []
  notArray : text.utf8ByteSize ≤ intake.limits.maxJsonBytes → ¬ Text.isBlank text →
    (∀ items, Json.document text ≠ .ok (.array items)) →
    RefusedAsWhole "INVALID_FILTER_JSON" result
  counted : text.utf8ByteSize ≤ intake.limits.maxJsonBytes → ¬ Text.isBlank text →
    ∀ items, Json.document text = .ok (.array items) → CountLaw intake one items result
  only_tooMany : HasCode "TOO_MANY_FILTERS" result →
    text.utf8ByteSize ≤ intake.limits.maxJsonBytes ∧ ¬ Text.isBlank text ∧
      ∃ items, Json.document text = .ok (.array items) ∧ intake.limits.maxFilters < items.length

/-- Results correspond when they are the same, or refusals that are related. -/
inductive Corresponds {α : Type} (related : FilterError → FilterError → Prop) :
    Except FilterError α → Except FilterError α → Prop
  | accepted {x : α} : Corresponds related (.ok x) (.ok x)
  | refused {e e' : FilterError} (refusals : related e e') : Corresponds related (.error e) (.error e')

/-! ## The items decide -/

section Items

variable {α : Type} {one : α → Except FilterError Filter}

/-- All items give their filters in order, from whatever index on. -/
theorem resolveAll_eq_ok_iff {index : Nat} {items : List α} {filters : List Filter} :
    resolveAll one index items = .ok filters ↔
      List.Forall₂ (fun item filter => one item = .ok filter) items filters := by
  induction items generalizing index filters with
  | nil => simp only [resolveAll, Except.ok.injEq, List.forall₂_nil_left_iff, eq_comm]
  | cons item rest ih =>
    rw [List.forall₂_cons_left_iff, resolveAll]
    cases alone : one item with
    | error e => simp only [reduceCtorEq, false_and, exists_false]
    | ok filter =>
      simp only [Except.ok.injEq, ← @ih (index + 1)]
      cases resolveAll one (index + 1) rest with
      | error e => simp only [reduceCtorEq, false_and, and_false, exists_false]
      | ok filters' =>
        simp only [Except.ok.injEq]
        constructor
        · intro eq
          exact ⟨filter, filters', rfl, rfl, eq.symm⟩
        · intro parts
          rcases parts with ⟨_, _, rfl, rfl, rfl⟩
          rfl

/-- A refusal is that of the first item that is refused, counted from the index on. -/
theorem exists_of_resolveAll_eq_error {index : Nat} {items : List α} {e : FilterError}
    (refused : resolveAll one index items = .error e) :
    ∃ front item back alone, items = front ++ item :: back ∧
      (∀ earlier ∈ front, ∃ filter, one earlier = .ok filter) ∧ one item = .error alone ∧
      e = alone.atIndex (index + front.length) := by
  -- The index moves on with each item that is passed, so the induction is for all indices.
  induction items generalizing index e with
  | nil => cases refused
  | cons item rest ih =>
    rw [resolveAll] at refused
    cases alone : one item with
    | error e' =>
      rw [alone, Except.error.injEq] at refused
      refine ⟨[], item, rest, e', rfl, fun _ none => ?_, alone, refused.symm⟩
      cases none
    | ok filter =>
      cases later : resolveAll one (index + 1) rest with
      | ok filters => simp only [alone, later, reduceCtorEq] at refused
      | error e' =>
        simp only [alone, later, Except.error.injEq] at refused
        obtain ⟨front, item', back, e'', rfl, before, refuses, rfl⟩ := ih later
        refine ⟨item :: front, item', back, e'', rfl, ?_, refuses, ?_⟩
        · intro earlier inFront
          rcases List.mem_cons.mp inFront with rfl | inFront
          · exact ⟨filter, alone⟩
          · exact before earlier inFront
        · rw [← refused, List.length_cons, Nat.add_right_comm, Nat.add_assoc]

/-- The first item that is refused decides, whatever comes after it. -/
theorem resolveAll_of_refused {front : List α} {item : α} {e : FilterError}
    (before : ∀ earlier ∈ front, ∃ filter, one earlier = .ok filter) (alone : one item = .error e)
    (index : Nat) (back : List α) :
    resolveAll one index (front ++ item :: back) = .error (e.atIndex (index + front.length)) := by
  induction front generalizing index with
  | nil => simp only [List.nil_append, resolveAll, alone, List.length_nil, Nat.add_zero]
  | cons first front ih =>
    rw [List.forall_mem_cons] at before
    rcases before with ⟨⟨filter, accepted⟩, before⟩
    rw [List.cons_append, resolveAll, accepted]
    dsimp only
    rw [ih before, List.length_cons, Nat.add_right_comm, Nat.add_assoc]

/-- Lists of which each two items become the same become the same. -/
theorem resolveAll_eq_of_each {β : Type} {one' : β → Except FilterError Filter} {items : List α}
    {items' : List β} (each : List.Forall₂ (fun x x' => one' x' = one x) items items')
    (index : Nat) : resolveAll one' index items' = resolveAll one index items := by
  induction each generalizing index with
  | nil => rfl
  | cons same _ ih => rw [resolveAll, resolveAll, same, ih]

/-- Lists of which each two items become results that correspond become results that correspond, if the
index of an item does not matter for the refusals that are related. -/
theorem corresponds_resolveAll {β : Type} {one' : β → Except FilterError Filter} {items : List α}
    {items' : List β} {related : FilterError → FilterError → Prop}
    (located : ∀ {e e'} index, related e e' → related (e.atIndex index) (e'.atIndex index))
    (each : List.Forall₂ (fun x x' => Corresponds related (one x) (one' x')) items items') (index : Nat) :
    Corresponds related (resolveAll one index items) (resolveAll one' index items') := by
  induction each generalizing index with
  | nil => exact .accepted
  | @cons x x' rest rest' first _ ih =>
    rw [resolveAll, resolveAll]
    generalize one x = result at first ⊢
    generalize one' x' = result' at first ⊢
    cases first with
    | refused alone => exact .refused (located index alone)
    | accepted =>
      have later := ih (index + 1)
      dsimp only
      generalize resolveAll one (index + 1) rest = result at later ⊢
      generalize resolveAll one' (index + 1) rest' = result' at later ⊢
      cases later with
      | refused behind => exact .refused behind
      | accepted => exact .accepted

/-- The items decide on exactly one result. -/
theorem decides_iff {items : List α} {result : Except FilterError (List Filter)} :
    Decides one items result ↔ result = resolveAll one 0 items := by
  constructor
  · intro decides
    cases decides with
    | accepted each => exact (resolveAll_eq_ok_iff.mpr each).symm
    | refused before alone => rw [resolveAll_of_refused before alone, Nat.zero_add]
  · intro eq
    rw [eq]
    cases all : resolveAll one 0 items with
    | ok filters => exact .accepted (resolveAll_eq_ok_iff.mp all)
    | error e =>
      obtain ⟨front, item, back, alone, rfl, before, refuses, rfl⟩ :=
        exists_of_resolveAll_eq_error all
      rw [Nat.zero_add]
      exact .refused before refuses

end Items

/-! ## Refusals of items are none of the list -/

/-- The fault is the size of a text or the number of its items. -/
def IsLimitFault (fault : FilterFault) : Prop :=
  ∃ limit, fault = .textTooLarge limit ∨ fault = .tooManyFilters limit

theorem isLimitFault_of_code {fault : FilterFault}
    (code : fault.code = "FILTER_JSON_TOO_LARGE" ∨ fault.code = "TOO_MANY_FILTERS") :
    IsLimitFault fault := by
  cases fault with
  | textTooLarge limit => exact ⟨limit, .inl rfl⟩
  | tooManyFilters limit => exact ⟨limit, .inr rfl⟩
  | _ => simp only [FilterFault.code, String.reduceEq, or_self] at code

theorem not_isLimitFault_of_ne {fault : FilterFault} (size : ∀ limit, fault ≠ .textTooLarge limit)
    (number : ∀ limit, fault ≠ .tooManyFilters limit) : ¬ IsLimitFault fault := by
  intro limitFault
  rcases limitFault with ⟨limit, eq | eq⟩
  · exact size limit eq
  · exact number limit eq

section Refusals

variable {intake : Intake} {entity : Entity} {e : FilterError}

theorem not_isLimitFault_resolve {d : Descriptor} (refused : intake.resolve entity d = .error e) :
    ¬ IsLimitFault e.fault := by
  have outcome := resolves_resolve intake entity d
  rw [refused] at outcome
  cases outcome with
  | wrongKey _ key =>
    rcases eq_of_checkKey_eq_error key with rfl | rfl <;> exact not_isLimitFault_of_ne nofun nofun
  | missingValue _ _ value =>
    cases eq_of_checkPresence_eq_error value
    exact not_isLimitFault_of_ne nofun nofun
  | _ => exact not_isLimitFault_of_ne nofun nofun

theorem not_isLimitFault_resolveItem {item : Json.Value}
    (refused : intake.resolveItem entity item = .error e) : ¬ IsLimitFault e.fault := by
  unfold resolveItem at refused
  split at refused
  · cases refused
    exact not_isLimitFault_of_ne nofun nofun
  · exact not_isLimitFault_resolve refused

theorem not_isLimitFault_resolveTagged {item : Json.Value}
    (refused : intake.resolveTagged item = .error e) : ¬ IsLimitFault e.fault := by
  unfold resolveTagged at refused
  split at refused
  · cases refused
    exact not_isLimitFault_of_ne nofun nofun
  · split at refused
    · cases refused
      exact not_isLimitFault_of_ne nofun nofun
    · exact not_isLimitFault_resolve refused

end Refusals

/-! ## Filters of items -/

section Accepted

variable {intake : Intake} {item : Json.Value} {f : Filter}

/-- An item that gives a filter has the form of a descriptor. -/
theorem exists_of_resolveItem_eq_ok {entity : Entity}
    (resolved : intake.resolveItem entity item = .ok f) :
    ∃ d, intake.resolve entity d = .ok f := by
  unfold resolveItem at resolved
  split at resolved
  · cases resolved
  · next d _ => exact ⟨d, resolved⟩

/-- An item that gives a filter for the entity that it names has the form of a tagged descriptor, and
names an entity. -/
theorem exists_of_resolveTagged_eq_ok (resolved : intake.resolveTagged item = .ok f) :
    ∃ name d entity, Descriptor.taggedOfValue item = .ok (name, d) ∧
      Entity.named? name = some entity ∧ intake.resolve entity d = .ok f := by
  unfold resolveTagged at resolved
  split at resolved
  · cases resolved
  · next name d tagged =>
    split at resolved
    · cases resolved
    · next entity named => exact ⟨name, d, entity, tagged, named, resolved⟩

end Accepted

/-! ## Reading the items -/

/-- The items of an array are read exactly if a value is read that is an array of these items. -/
theorem arrayItems_eq_ok_iff {cs rest : List Char} {items : List Json.Value} :
    arrayItems cs = .ok (items, rest) ↔
      Json.value Json.maxDepth cs = .ok (.array items, rest) := by
  by_cases array : ∃ after, Json.skipSpace cs = '[' :: after
  · rcases array with ⟨after, front⟩
    have value : Json.value Json.maxDepth cs =
        (arrayItems cs).map fun read => (.array read.1, read.2) := by
      rw [arrayItems, front]
      exact Json.value_of_bracket front
    rw [value]
    cases arrayItems cs with
    | error e => exact iff_of_false nofun nofun
    | ok read =>
      rcases read with ⟨read, left⟩
      simp only [Except.map, Except.ok.injEq, Prod.mk.injEq, Json.Value.array.injEq]
  · have unread : arrayItems cs ≠ .ok (items, rest) := by
      unfold arrayItems
      split
      · next after front => exact absurd ⟨after, front⟩ array
      · exact Json.unexpected_ne_ok
    exact iff_of_false unread (Json.value_ne_array fun after front => array ⟨after, front⟩)

theorem whole_arrayItems_eq_ok_iff {text : String} {items : List Json.Value} :
    Json.whole arrayItems text = .ok items ↔ Json.document text = .ok (.array items) := by
  simp only [Json.document, Json.whole_eq_ok_iff, arrayItems_eq_ok_iff]

/-- The items of the text of a list: none if it is blank, and else those of the JSON array that it is. -/
def ItemsOf (text : String) (items : List Json.Value) : Prop :=
  if Text.isBlank text then items = [] else Json.document text = .ok (.array items)

theorem checkCount_eq_ok_iff {α : Type} {intake : Intake} {items counted : List α} :
    intake.checkCount items = .ok counted ↔
      items.length ≤ intake.limits.maxFilters ∧ items = counted := by
  unfold checkCount
  split
  · next tooMany => exact iff_of_false nofun fun h => absurd h.1 (by omega)
  · next fits =>
    rw [Except.ok.injEq]
    exact ⟨fun eq => ⟨by omega, eq⟩, fun h => h.2⟩

/-- The items of a text are read exactly if neither the text nor their number exceeds its limit. -/
theorem readList_eq_ok_iff {intake : Intake} {text : String} {items : List Json.Value} :
    intake.readList text = .ok items ↔
      text.utf8ByteSize ≤ intake.limits.maxJsonBytes ∧ ItemsOf text items ∧
        items.length ≤ intake.limits.maxFilters := by
  unfold readList ItemsOf
  by_cases tooLarge : intake.limits.maxJsonBytes < text.utf8ByteSize
  · rw [if_pos tooLarge]
    exact iff_of_false nofun fun h => absurd h.1 (by omega)
  rw [if_neg tooLarge]
  have fits : text.utf8ByteSize ≤ intake.limits.maxJsonBytes := by omega
  by_cases blank : Text.isBlank text
  · rw [if_pos blank, if_pos blank, Except.ok.injEq]
    constructor
    · intro none
      rw [← none]
      exact ⟨fits, rfl, Nat.zero_le _⟩
    · intro parts
      exact parts.2.1.symm
  rw [if_neg blank, if_neg blank, ← whole_arrayItems_eq_ok_iff]
  cases Json.whole arrayItems text with
  | error e => exact iff_of_false nofun fun h => nomatch h.2.1
  | ok read =>
    rw [checkCount_eq_ok_iff, Except.ok.injEq]
    constructor
    · intro counted
      rcases counted with ⟨few, rfl⟩
      exact ⟨fits, rfl, few⟩
    · intro parts
      rcases parts with ⟨_, rfl, few⟩
      exact ⟨few, rfl⟩

/-- The fault is one of a list as a whole: it exceeds a limit, or its text is no list. -/
def IsWholeFault (fault : FilterFault) : Prop :=
  IsLimitFault fault ∨ ∃ error, fault = .invalidJson error

/-- Before the items are resolved, a list is only refused as a whole. -/
theorem exists_of_checkCount_eq_error {α : Type} {intake : Intake} {items : List α} {e : FilterError}
    (refused : intake.checkCount items = .error e) : ∃ fault, e = .ofFault fault ∧ IsWholeFault fault := by
  unfold checkCount at refused
  split at refused
  · cases refused
    exact ⟨_, rfl, .inl ⟨_, .inr rfl⟩⟩
  · cases refused

theorem exists_of_readList_eq_error {intake : Intake} {text : String} {e : FilterError}
    (refused : intake.readList text = .error e) : ∃ fault, e = .ofFault fault ∧ IsWholeFault fault := by
  unfold readList at refused
  split at refused
  · cases refused
    exact ⟨_, rfl, .inl ⟨_, .inl rfl⟩⟩
  split at refused
  · cases refused
  split at refused
  · cases refused
    exact ⟨_, rfl, .inr ⟨_, rfl⟩⟩
  · exact exists_of_checkCount_eq_error refused

/-- A list with an item is not that of a blank text. -/
theorem document_of_mem_readList {intake : Intake} {text : String} {items : List Json.Value}
    {item : Json.Value} (list : intake.readList text = .ok items) (inList : item ∈ items) :
    Json.document text = .ok (.array items) := by
  have array := (readList_eq_ok_iff.mp list).2.1
  unfold ItemsOf at array
  split at array
  · rw [array] at inList
    cases inList
  · exact array

/-! ## The law holds -/

section Law

variable {α : Type} {intake : Intake}

theorem parse_eq_bind (entity : Entity) (text : String) :
    intake.parse entity text =
      (intake.readList text).bind (resolveAll (intake.resolveItem entity) 0) := by
  unfold parse parseLogged
  cases intake.readList text <;> rfl

theorem parseTagged_eq_bind (text : String) :
    intake.parseTagged text = (intake.readList text).bind (resolveAll intake.resolveTagged 0) := by
  unfold parseTagged parseTaggedLogged
  cases intake.readList text <;> rfl

/-- Descriptors are only counted before they are resolved. -/
theorem ofDescriptors_eq_bind (entity : Entity) (descriptors : List Descriptor) :
    intake.ofDescriptors entity descriptors =
      (intake.checkCount descriptors).bind (resolveAll (intake.resolve entity) 0) := by
  unfold ofDescriptors ofDescriptorsLogged
  cases intake.checkCount descriptors <;> rfl

/-- Counted lists of which each two items become the same become the same. -/
theorem bind_checkCount_eq_of_each {β : Type} {intake' : Intake} {one : α → Except FilterError Filter}
    {one' : β → Except FilterError Filter} {items : List α} {items' : List β}
    (limits : intake'.limits = intake.limits)
    (each : List.Forall₂ (fun x x' => one' x' = one x) items items') :
    (intake'.checkCount items').bind (resolveAll one' 0) =
      (intake.checkCount items).bind (resolveAll one 0) := by
  rw [checkCount, checkCount, limits, ← each.length_eq]
  by_cases tooMany : intake.limits.maxFilters < items.length
  · rw [if_pos tooMany, if_pos tooMany]
    simp only [Except.bind]
  · rw [if_neg tooMany, if_neg tooMany]
    simp only [Except.bind, resolveAll_eq_of_each each]

/-- Counted lists of which each two items become results that correspond become results that correspond. -/
theorem corresponds_bind_checkCount {β : Type} {one : α → Except FilterError Filter}
    {one' : β → Except FilterError Filter} {items : List α} {items' : List β}
    {related : FilterError → FilterError → Prop} (same : ∀ e, related e e)
    (located : ∀ {e e'} index, related e e' → related (e.atIndex index) (e'.atIndex index))
    (each : List.Forall₂ (fun x x' => Corresponds related (one x) (one' x')) items items') :
    Corresponds related ((intake.checkCount items).bind (resolveAll one 0))
      ((intake.checkCount items').bind (resolveAll one' 0)) := by
  rw [checkCount, checkCount, ← each.length_eq]
  by_cases tooMany : intake.limits.maxFilters < items.length
  · rw [if_pos tooMany, if_pos tooMany]
    exact .refused (same _)
  · rw [if_neg tooMany, if_neg tooMany]
    exact corresponds_resolveAll located each 0

/-- A list is accepted exactly if its items can be had and each of them gives its filter. -/
theorem bind_resolveAll_eq_ok_iff {one : α → Except FilterError Filter}
    {items? : Except FilterError (List α)} {filters : List Filter} :
    items?.bind (resolveAll one 0) = .ok filters ↔
      ∃ items, items? = .ok items ∧
        List.Forall₂ (fun item filter => one item = .ok filter) items filters := by
  cases items? with
  | error e => exact iff_of_false nofun fun ⟨_, eq, _⟩ => nomatch eq
  | ok items => simp only [Except.bind, resolveAll_eq_ok_iff, Except.ok.injEq, exists_eq_left']

section Accepting

variable {entity : Entity} {text : String} {descriptors : List Descriptor} {filters : List Filter}

theorem parse_eq_ok_iff : intake.parse entity text = .ok filters ↔
    ∃ items, intake.readList text = .ok items ∧
      List.Forall₂ (fun item filter => intake.resolveItem entity item = .ok filter) items filters := by
  rw [parse_eq_bind, bind_resolveAll_eq_ok_iff]

theorem parseTagged_eq_ok_iff : intake.parseTagged text = .ok filters ↔
    ∃ items, intake.readList text = .ok items ∧
      List.Forall₂ (fun item filter => intake.resolveTagged item = .ok filter) items filters := by
  rw [parseTagged_eq_bind, bind_resolveAll_eq_ok_iff]

theorem ofDescriptors_eq_ok_iff : intake.ofDescriptors entity descriptors = .ok filters ↔
    descriptors.length ≤ intake.limits.maxFilters ∧
      List.Forall₂ (fun d filter => intake.resolve entity d = .ok filter) descriptors filters := by
  rw [ofDescriptors_eq_bind, bind_resolveAll_eq_ok_iff]
  simp only [checkCount_eq_ok_iff, and_assoc, exists_and_left, exists_eq_left']

end Accepting

/-- The list of filters is accepted in one of the three ways of taking in a list. -/
def Accepts (intake : Intake) (filters : List Filter) : Prop :=
  (∃ entity text, intake.parse entity text = .ok filters) ∨
    (∃ text, intake.parseTagged text = .ok filters) ∨
    ∃ entity descriptors, intake.ofDescriptors entity descriptors = .ok filters

theorem forall_of_each {one : α → Except FilterError Filter} {P : Filter → Prop}
    (sound : ∀ {item f}, one item = .ok f → P f) {items : List α} {filters : List Filter}
    (each : List.Forall₂ (fun item f => one item = .ok f) items filters) : ∀ f ∈ filters, P f := by
  induction each with
  | nil => exact List.forall_mem_nil _
  | cons resolved _ ih => exact List.forall_mem_cons.mpr ⟨sound resolved, ih⟩

/-- Each filter of a list that is accepted has what every filter of a descriptor has. -/
theorem forall_of_accepts {P : Filter → Prop} {filters : List Filter}
    (sound : ∀ {entity d f}, intake.resolve entity d = .ok f → P f)
    (accepted : intake.Accepts filters) : ∀ f ∈ filters, P f := by
  rcases accepted with ⟨entity, text, accepted⟩ | ⟨text, accepted⟩ | ⟨entity, ds, accepted⟩
  · obtain ⟨items, _, each⟩ := parse_eq_ok_iff.mp accepted
    refine forall_of_each (fun {item f} resolved => ?_) each
    obtain ⟨d, resolved⟩ := exists_of_resolveItem_eq_ok resolved
    exact sound resolved
  · obtain ⟨items, _, each⟩ := parseTagged_eq_ok_iff.mp accepted
    refine forall_of_each (fun {item f} resolved => ?_) each
    obtain ⟨name, d, entity, _, _, resolved⟩ := exists_of_resolveTagged_eq_ok resolved
    exact sound resolved
  · exact forall_of_each sound (ofDescriptors_eq_ok_iff.mp accepted).2

/-- A refusal that is made before any descriptor is looked at is one of the whole list. -/
theorem refusedAsWhole_ofFault (fault : FilterFault) :
    RefusedAsWhole fault.code (.error (.ofFault fault)) :=
  ⟨_, rfl, rfl, rfl, rfl⟩

theorem not_hasCode_ofFault {fault : FilterFault} {code : String} (other : fault.code ≠ code) :
    ¬ HasCode code (.error (.ofFault fault)) := by
  intro hasCode
  rcases hasCode with ⟨e, refused, code⟩
  cases refused
  exact other code

/-- When no item is refused for a limit, the items do not give a refusal with the code of one. -/
theorem not_hasCode_of_decides {one : α → Except FilterError Filter} {items : List α}
    {result : Except FilterError (List Filter)} {code : String}
    (unlimited : ∀ item e, one item = .error e → ¬ IsLimitFault e.fault)
    (limit : code = "FILTER_JSON_TOO_LARGE" ∨ code = "TOO_MANY_FILTERS")
    (decides : Decides one items result) : ¬ HasCode code result := by
  intro hasCode
  rcases hasCode with ⟨e, refused, rfl⟩
  cases decides with
  | accepted each => cases refused
  | refused before alone =>
    cases refused
    exact unlimited _ _ alone (isLimitFault_of_code limit)

/-- The check of the number of items and then the items, in order, follow the law of counted lists. -/
theorem countLaw_of_unlimited {one : α → Except FilterError Filter}
    (unlimited : ∀ item e, one item = .error e → ¬ IsLimitFault e.fault) (items : List α) :
    CountLaw intake one items ((intake.checkCount items).bind (resolveAll one 0)) := by
  by_cases tooMany : intake.limits.maxFilters < items.length
  · rw [checkCount, if_pos tooMany]
    exact {
      tooMany := fun _ => refusedAsWhole_ofFault _
      only_tooMany := fun _ => tooMany
      never_tooLarge := not_hasCode_ofFault (show "TOO_MANY_FILTERS" ≠ _ by decide)
      decided := fun fits => absurd fits (by omega) }
  · rw [checkCount, if_neg tooMany]
    have decides : Decides one items (resolveAll one 0 items) := decides_iff.mpr rfl
    exact {
      tooMany := fun exceeds => absurd exceeds tooMany
      only_tooMany := fun code => absurd code (not_hasCode_of_decides unlimited (.inr rfl) decides)
      never_tooLarge := not_hasCode_of_decides unlimited (.inl rfl) decides
      decided := fun _ => decides }

/-- Reading the items of a text and then resolving them, in order, follows the law of texts. -/
theorem textLaw_of_unlimited {one : Json.Value → Except FilterError Filter}
    (unlimited : ∀ item e, one item = .error e → ¬ IsLimitFault e.fault) (text : String) :
    TextLaw intake one text ((intake.readList text).bind (resolveAll one 0)) := by
  unfold readList
  by_cases tooLarge : intake.limits.maxJsonBytes < text.utf8ByteSize
  · rw [if_pos tooLarge]
    exact {
      tooLarge := fun _ => refusedAsWhole_ofFault _
      only_tooLarge := fun _ => tooLarge
      blank := fun fits => absurd fits (by omega)
      notArray := fun fits => absurd fits (by omega)
      counted := fun fits => absurd fits (by omega)
      only_tooMany := fun code =>
        absurd code (not_hasCode_ofFault (show "FILTER_JSON_TOO_LARGE" ≠ _ by decide)) }
  rw [if_neg tooLarge]
  by_cases blank : Text.isBlank text
  · rw [if_pos blank]
    exact {
      tooLarge := fun exceeds => absurd exceeds tooLarge
      only_tooLarge := fun ⟨_, refused, _⟩ => nomatch refused
      blank := fun _ _ => rfl
      notArray := fun _ nonblank => absurd blank nonblank
      counted := fun _ nonblank => absurd blank nonblank
      only_tooMany := fun ⟨_, refused, _⟩ => nomatch refused }
  rw [if_neg blank]
  cases read : Json.whole arrayItems text with
  | error e =>
    dsimp only
    exact {
      tooLarge := fun exceeds => absurd exceeds tooLarge
      only_tooLarge := fun code =>
        absurd code (not_hasCode_ofFault (show "INVALID_FILTER_JSON" ≠ _ by decide))
      blank := fun _ isBlank => absurd isBlank blank
      notArray := fun _ _ _ => refusedAsWhole_ofFault _
      counted := fun _ _ items array => by
        rw [whole_arrayItems_eq_ok_iff.mpr array] at read
        cases read
      only_tooMany := fun code =>
        absurd code (not_hasCode_ofFault (show "INVALID_FILTER_JSON" ≠ _ by decide)) }
  | ok items =>
    dsimp only
    have array := whole_arrayItems_eq_ok_iff.mp read
    have law : CountLaw intake one items _ := countLaw_of_unlimited unlimited items
    exact {
      tooLarge := fun exceeds => absurd exceeds tooLarge
      only_tooLarge := fun code => absurd code law.never_tooLarge
      blank := fun _ isBlank => absurd isBlank blank
      notArray := fun _ _ other => absurd array (other items)
      counted := fun _ _ items' array' => by
        cases array.symm.trans array'
        exact law
      only_tooMany := fun code => ⟨by omega, blank, items, array, law.only_tooMany code⟩ }

end Law

/-- Texts of filters for one entity, texts of filters that name their entities, and lists of
descriptors are all taken in by the same law, each with its way of resolving one item. -/
theorem taken_in_as_a_whole (intake : Intake) (entity : Entity) (text : String)
    (descriptors : List Descriptor) :
    TextLaw intake (intake.resolveItem entity) text (intake.parse entity text) ∧
      TextLaw intake intake.resolveTagged text (intake.parseTagged text) ∧
      CountLaw intake (intake.resolve entity) descriptors
        (intake.ofDescriptors entity descriptors) := by
  rw [parse_eq_bind, parseTagged_eq_bind, ofDescriptors_eq_bind]
  exact ⟨textLaw_of_unlimited (fun _ _ => not_isLimitFault_resolveItem) text,
    textLaw_of_unlimited (fun _ _ => not_isLimitFault_resolveTagged) text,
    countLaw_of_unlimited (fun _ _ => not_isLimitFault_resolve) descriptors⟩

/-- Of three items the second decides though the third is refused too, or the first one where entities have to
be named. Three descriptors are accepted, and a fourth one makes them too many. -/
theorem taken_in_as_a_whole_of_three_items :
    let intake := ofEncoding .plain ⟨"UTC", 0, []⟩ ⟨3, 128⟩
    let text := "[\x7b\"field\":\"name\",\"operator\":\"is_empty\"\x7d," ++
      "\x7b\"field\":\"name\",\"operator\":\"nope\"\x7d,7]"
    let given (operator : String) : Json.Value :=
      .object [("field", .string "name"), ("operator", .string operator)]
    let items := [given "is_empty", given "nope", .number (.integer 7)]
    let d : Descriptor := ⟨"name", "is_empty", none, none⟩
    let f : Filter := ⟨.traces, ⟨"name", .string, []⟩, .isEmpty, none, none⟩
    Decides (intake.resolveItem .traces) items (intake.parse .traces text) ∧
      intake.parse .traces text = .error ⟨.unknownOperator "nope", some 1, some "name"⟩ ∧
      Decides intake.resolveTagged items (intake.parseTagged text) ∧
      intake.parseTagged text =
        .error ⟨.invalidJson ⟨.shape (.missingField "entity"), none⟩, some 0, some "name"⟩ ∧
      Decides (intake.resolve .traces) [d, d, d] (intake.ofDescriptors .traces [d, d, d]) ∧
      intake.ofDescriptors .traces [d, d, d] = .ok [f, f, f] ∧
      RefusedAsWhole "TOO_MANY_FILTERS" (intake.ofDescriptors .traces [d, d, d, d]) := by
  intro intake text given items d f
  obtain ⟨parsed, tagged, few⟩ := taken_in_as_a_whole intake .traces text [d, d, d]
  obtain ⟨_, _, many⟩ := taken_in_as_a_whole intake .traces text [d, d, d, d]
  have size : text.utf8ByteSize ≤ intake.limits.maxJsonBytes := by decide +kernel
  have nonblank : ¬ Text.isBlank text := by decide +kernel
  have array : Json.document text = .ok (.array items) := by
    subst text given items
    rfl
  have counted : items.length ≤ intake.limits.maxFilters := Nat.le_refl 3
  exact ⟨(parsed.counted size nonblank items array).decided counted, by decide +kernel,
    (tagged.counted size nonblank items array).decided counted, by decide +kernel,
    few.decided (Nat.le_refl 3), by decide +kernel, many.tooMany (Nat.lt_succ_self 3)⟩

end TypedFilters.Intake
