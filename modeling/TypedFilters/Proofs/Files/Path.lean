import TypedFilters.Files.Path

/-!
# Where a path that a user gave leads

The components of a joined path are those of its base and those of the path that is joined
(`components_join`), as long as this path is relative: an absolute path takes the place of its base. So a
path of the working directory stays under it, and a path that begins with a tilde and one slash stays
under the home directory (`expansionLaw`). Behind a tilde and two slashes stands an absolute path, which
leaves the home directory (`second_slash_leaves_home`).
-/

namespace TypedFilters

/-! ## Pieces -/

namespace Text

variable {α : Type} [DecidableEq α] {sep : α}

theorem splitList_ne_nil (xs : List α) : splitList sep xs ≠ [] := by
  cases xs with
  | nil => exact List.cons_ne_nil _ _
  | cons x xs =>
    rw [splitList]
    split
    · exact List.cons_ne_nil _ _
    · split <;> exact List.cons_ne_nil _ _

/-- The pieces on both sides of a cut are those of the two parts. -/
theorem splitList_append_cons (xs ys : List α) :
    splitList sep (xs ++ sep :: ys) = splitList sep xs ++ splitList sep ys := by
  induction xs with
  | nil =>
    have empty : splitList sep ([] : List α) = [[]] := rfl
    rw [List.nil_append, empty, splitList, if_pos rfl, List.singleton_append]
  | cons x xs ih =>
    rw [List.cons_append, splitList, splitList, ih]
    by_cases cut : x = sep
    · rw [if_pos cut, if_pos cut, List.cons_append]
    · rw [if_neg cut, if_neg cut]
      -- The first piece of the front goes on with `x`.
      obtain ⟨piece, pieces, front⟩ := List.exists_cons_of_ne_nil (@splitList_ne_nil _ _ sep xs)
      rw [front, List.cons_append]
      rfl

theorem split_append_cut {cut : Char} (s t : String) :
    split cut (s ++ String.singleton cut ++ t) = split cut s ++ split cut t := by
  have chars : (s ++ String.singleton cut ++ t).toList = s.toList ++ cut :: t.toList := by
    simp only [String.toList_append, String.toList_singleton, List.append_assoc, List.singleton_append]
  rw [split, chars, splitList_append_cons, List.map_append, split, split]

end Text

namespace Path

/-! ## Joined paths -/

section Join

variable {base path : String}

theorem isAbsolute_iff : isAbsolute path ↔ ∃ rest, path.toList = '/' :: rest := by
  unfold isAbsolute
  split
  · next rest front => exact iff_of_true rfl ⟨rest, front⟩
  · next other => exact iff_of_false Bool.false_ne_true fun ⟨rest, front⟩ => other rest front

theorem isAbsolute_append (absolute : isAbsolute base) (more : String) : isAbsolute (base ++ more) := by
  obtain ⟨rest, front⟩ := isAbsolute_iff.mp absolute
  apply isAbsolute_iff.mpr
  exact ⟨rest ++ more.toList, by rw [String.toList_append, front, List.cons_append]⟩

/-- A path is absolute if it is joined to an absolute one, or is absolute itself. -/
theorem isAbsolute_join (absolute : isAbsolute base) (path : String) : isAbsolute (join base path) := by
  unfold join
  split
  · next replaced => exact replaced
  split
  · exact isAbsolute_append absolute path
  · exact isAbsolute_append (isAbsolute_append absolute "/") path

theorem join_of_isAbsolute (absolute : isAbsolute path) (base : String) : join base path = path := by
  rw [join, if_pos absolute]

theorem components_append_slash (base path : String) :
    components (base ++ "/" ++ path) = components base ++ components path := by
  have pieces := @Text.split_append_cut '/' base path
  rw [components, show "/" = String.singleton '/' from rfl, pieces, List.filter_append, components,
    components]

theorem components_empty : components "" = [] := rfl

/-- A slash at the end of a path adds no component. -/
theorem components_slash (base : String) : components (base ++ "/") = components base := by
  have joined := components_append_slash base ""
  rwa [String.append_empty, components_empty, List.append_nil] at joined

/-- A relative path adds its components to those of its base. -/
theorem components_join (relative : ¬ isAbsolute path) :
    components (join base path) = components base ++ components path := by
  rw [join, if_neg relative]
  split
  · next ended =>
    rcases Bool.or_eq_true_iff.mp ended with empty | slash
    · rw [String.isEmpty_iff.mp empty, String.empty_append, components_empty, List.nil_append]
    · obtain ⟨front, split⟩ := List.getLast?_eq_some_iff.mp (beq_iff_eq.mp slash)
      have shape : base = String.ofList front ++ "/" := by
        rw [← @String.ofList_toList base, split, String.ofList_append]
      rw [shape, components_append_slash, components_slash]
  · exact components_append_slash base path

end Join

/-! ## Expanded paths -/

/-- What becomes of a path that a user gave, where the home and the working directory are known. -/
structure ExpansionLaw (home workingDirectory path expanded : String) : Prop where
  absolute : isAbsolute expanded
  /-- A tilde alone is the home directory. -/
  tilde : Text.trim path = "~" → expanded = home
  /-- A relative path behind a tilde and a slash stays under the home directory. -/
  underHome : ∀ rest, Text.trim path = "~/" ++ rest → ¬ isAbsolute rest →
    components expanded = components home ++ components rest
  /-- An absolute path behind a tilde and a slash takes the place of the home directory. -/
  besideHome : ∀ rest, Text.trim path = "~/" ++ rest → isAbsolute rest → expanded = rest
  /-- An absolute path stays as it is. -/
  kept : isAbsolute (Text.trim path) → expanded = Text.trim path
  /-- Any other path stays under the working directory, also one that begins with the name of a user. -/
  underWorkingDirectory : Text.trim path ≠ "~" → (∀ rest, Text.trim path ≠ "~/" ++ rest) →
    ¬ isAbsolute (Text.trim path) →
      components expanded = components workingDirectory ++ components (Text.trim path)

section Expand

variable {home workingDirectory path : String}

theorem expandHome_tilde : expandHome (some home) "~" = home := rfl

theorem toList_tilde_slash (rest : String) : ("~/" ++ rest).toList = '~' :: '/' :: rest.toList := by
  rw [String.toList_append]
  rfl

theorem expandHome_tilde_slash (rest : String) :
    expandHome (some home) ("~/" ++ rest) = join home rest := by
  unfold expandHome
  rw [toList_tilde_slash]
  simp only [String.ofList_toList]

theorem expandHome_of_other (alone : path ≠ "~") (slash : ∀ rest, path ≠ "~/" ++ rest) :
    expandHome (some home) path = path := by
  unfold expandHome
  split
  · next front _ => exact absurd (String.toList_inj.mp front) alone
  · next _ _ rest _ front _ =>
    refine absurd (String.toList_inj.mp ?_) (slash (String.ofList rest))
    rw [front, toList_tilde_slash, String.toList_ofList]
  · rfl

theorem expand_of_isAbsolute {home? : Option String}
    (absolute : isAbsolute (expandHome home? (Text.trim path))) (workingDirectory : String) :
    expand home? workingDirectory path = expandHome home? (Text.trim path) := by
  rw [expand, if_pos absolute]

/-- An absolute path begins with a slash and not with a tilde. -/
theorem expandHome_of_isAbsolute (absolute : isAbsolute path) : expandHome (some home) path = path := by
  obtain ⟨after, front⟩ := isAbsolute_iff.mp absolute
  apply expandHome_of_other
  · rintro rfl
    cases front
  · intro rest tilde
    rw [tilde, toList_tilde_slash] at front
    cases front

end Expand

/-- A path that a user gave is expanded by its front: a tilde alone, a tilde with a slash, a slash, or
anything else. -/
theorem expanded_by_front (home workingDirectory path : String) (homeAbsolute : isAbsolute home)
    (hereAbsolute : isAbsolute workingDirectory) :
    ExpansionLaw home workingDirectory path (expand (some home) workingDirectory path) where
  absolute := by
    rw [expand]
    split
    · next absolute => exact absolute
    · exact isAbsolute_join hereAbsolute _
  tilde alone := by
    have isHome : expandHome (some home) (Text.trim path) = home := by
      rw [alone, expandHome_tilde]
    rw [expand_of_isAbsolute (by rw [isHome]; exact homeAbsolute), isHome]
  underHome rest front relative := by
    have joined : expandHome (some home) (Text.trim path) = join home rest := by
      rw [front, expandHome_tilde_slash]
    rw [expand_of_isAbsolute (by rw [joined]; exact isAbsolute_join homeAbsolute rest), joined,
      components_join relative]
  besideHome rest front absolute := by
    have replaced : expandHome (some home) (Text.trim path) = rest := by
      rw [front, expandHome_tilde_slash, join_of_isAbsolute absolute]
    rw [expand_of_isAbsolute (by rw [replaced]; exact absolute), replaced]
  kept absolute := by
    have same : expandHome (some home) (Text.trim path) = Text.trim path := expandHome_of_isAbsolute absolute
    rw [expand_of_isAbsolute (by rw [same]; exact absolute), same]
  underWorkingDirectory alone slash relative := by
    have same : expandHome (some home) (Text.trim path) = Text.trim path := expandHome_of_other alone slash
    rw [expand, same, if_neg relative, components_join relative]

/-- Blanks, doubled slashes inside and single points do not lead out of the home directory. -/
theorem expanded_by_front_of_a_setting :
    isAbsolute "/home" ∧ isAbsolute "/work" ∧
      components (expand (some "/home") "/work" " ~/a//./b\n") = ["home", "a", "b"] := by
  have law : ExpansionLaw "/home" "/work" " ~/a//./b\n" _ :=
    expanded_by_front "/home" "/work" " ~/a//./b\n" (by decide +kernel) (by decide +kernel)
  have under := law.underHome "a//./b" (by decide +kernel) (by decide +kernel)
  exact ⟨by decide +kernel, by decide +kernel, under.trans (by decide +kernel)⟩

/-- Behind a tilde and two slashes stands an absolute path, and the home directory is left. -/
theorem second_slash_leaves_home :
    isAbsolute "/home" ∧ isAbsolute "/work" ∧ Text.trim "~//x" = "~/" ++ "/x" ∧
      expand (some "/home") "/work" "~//x" = "/x" ∧ ¬ components "/home" <+: components "/x" := by
  decide +kernel

end Path

end TypedFilters
