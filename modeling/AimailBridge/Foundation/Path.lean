import AimailBridge.Foundation.Text

/-!
# Unix paths

Paths as the standard library takes them apart: the slashes of a path separate its components, and
empty pieces and dots between them say nothing.  Below the components stand the places that they
lead to, where only `..` and the root directory ever leave the directory one is in.
-/

namespace Foundation

open Text

/-- `std::path::Component`. -/
inductive Component
  /-- The root directory. -/
  | rootDir
  /-- `.`, at the front of a path. -/
  | curDir
  /-- `..`. -/
  | parentDir
  /-- A name. -/
  | normal (name : Text)
  deriving DecidableEq

namespace Path

/-- `Path::is_absolute`. -/
def isAbsolute (path : Text) : Bool :=
  path.head? = some '/'

/-- The component that a piece between slashes stands for. -/
def componentOf (piece : Text) : Option Component :=
  if piece = [] ∨ piece = ['.'] then none
  else if piece = ['.', '.'] then some .parentDir
  else some (.normal piece)

/-- The components of the pieces between slashes. -/
def pieces (path : Text) : List Component :=
  (path.splitOn '/').filterMap componentOf

/-- The component that only the front of a path can have. -/
def front (path : Text) : List Component :=
  if isAbsolute path then [.rootDir]
  else if (path.splitOn '/').head? = some ['.'] then [.curDir]
  else []

/-- `Path::components`. -/
def components (path : Text) : List Component :=
  front path ++ pieces path

/-- `Path::join`: an absolute path takes the place of the base. -/
def join (base path : Text) : Text :=
  if isAbsolute path then path
  else if base = [] ∨ base.getLast? = some '/' then base ++ path
  else base ++ '/' :: path

/-- `Path::starts_with`: whole components only. -/
def startsWith (path base : Text) : Bool :=
  (components base).isPrefixOf (components path)

example : components "/a//./b/../c".toList =
    [.rootDir, .normal ['a'], .normal ['b'], .parentDir, .normal ['c']] := by decide

/-! ## Where components lead -/

/-- The directory that a component leads to, by the names on the way from the root. -/
def enter (place : List Text) : Component → List Text
  | .rootDir => []
  | .curDir => place
  | .parentDir => place.dropLast
  | .normal name => place ++ [name]

/-- The place that components lead to. -/
def walk (place : List Text) (steps : List Component) : List Text :=
  steps.foldl enter place

/-- Components that only descend. -/
def Descends (steps : List Component) : Prop :=
  ∀ step ∈ steps, step ≠ .rootDir ∧ step ≠ .parentDir

/-- The path is the base, and components from there that only descend. -/
def Below (base path : Text) : Prop :=
  ∃ steps, Descends steps ∧ components path = components base ++ steps

@[simp]
theorem walk_append (place : List Text) (first second : List Component) :
    walk place (first ++ second) = walk (walk place first) second :=
  List.foldl_append

theorem prefix_enter {place : List Text} {step : Component} (not_root : step ≠ .rootDir)
    (not_parent : step ≠ .parentDir) : place <+: enter place step := by
  cases step with
  | rootDir => exact absurd rfl not_root
  | curDir => exact List.prefix_rfl
  | parentDir => exact absurd rfl not_parent
  | normal name => exact List.prefix_append place [name]

/-- Descending never leaves the place where it begins. -/
theorem prefix_walk {steps : List Component} (descends : Descends steps) (place : List Text) :
    place <+: walk place steps := by
  induction steps generalizing place with
  | nil => exact List.prefix_rfl
  | cons step steps induction =>
      obtain ⟨not_root, not_parent⟩ := descends step List.mem_cons_self
      have rest : Descends steps := fun later member =>
        descends later (List.mem_cons_of_mem step member)
      exact (prefix_enter not_root not_parent).trans (induction rest (enter place step))

variable {base path : Text}

/-- A path below a base leads to a place inside the one that the base leads to. -/
theorem Below.inside (below : Below base path) (place : List Text) :
    walk place (components base) <+: walk place (components path) := by
  obtain ⟨steps, descends, path_eq⟩ := below
  rw [path_eq, walk_append]
  exact prefix_walk descends _

theorem Below.startsWith (below : Below base path) : startsWith path base = true := by
  obtain ⟨steps, _, path_eq⟩ := below
  rw [Path.startsWith, List.isPrefixOf_iff_prefix, path_eq]
  exact List.prefix_append _ steps

/-- Relative paths that are joined to one base can be told apart. -/
theorem join_inj {base path other : Text} (relative : isAbsolute path = false)
    (relative_other : isAbsolute other = false) (same : join base other = join base path) :
    other = path := by
  rw [join, join, relative, relative_other, if_neg Bool.false_ne_true,
    if_neg Bool.false_ne_true] at same
  split at same
  · exact List.append_cancel_left same
  · exact (List.cons.inj (List.append_cancel_left same)).2

/-! ## Components of joined paths -/

theorem pieces_separated (front back : Text) :
    pieces (front ++ '/' :: back) = pieces front ++ pieces back := by
  rw [pieces, List.splitOn_append_cons_self, List.filterMap_append]
  rfl

/-- What stands at the front of a path is settled before its first slash. -/
theorem front_separated (base_ne : base ≠ []) (back : Text) :
    front (base ++ '/' :: back) = front base := by
  have same_head : isAbsolute (base ++ '/' :: back) = isAbsolute base := by
    rw [isAbsolute, isAbsolute, List.head?_append_of_ne_nil base base_ne]
  have same_piece : ((base ++ '/' :: back).splitOn '/').head? = (base.splitOn '/').head? := by
    rw [List.splitOn_append_cons_self,
      List.head?_append_of_ne_nil _ (List.splitOn_ne_nil '/' base)]
  rw [front, front, same_head, same_piece]

theorem components_separated (base_ne : base ≠ []) (back : Text) :
    components (base ++ '/' :: back) = components base ++ pieces back := by
  rw [components, front_separated base_ne, pieces_separated, components, List.append_assoc]

/-- The components of a relative path follow those of the base that it is joined to. -/
theorem components_join (base_ne : base ≠ []) (relative : isAbsolute path = false) :
    components (join base path) = components base ++ pieces path := by
  rw [join, if_neg (by simp [relative])]
  split
  · next ends =>
      -- the base ends with a slash of its own
      obtain ⟨short, rfl⟩ : ∃ short, base = short ++ ['/'] :=
        List.getLast?_eq_some_iff.mp (ends.resolve_left base_ne)
      rw [List.append_assoc, List.singleton_append]
      cases short with
      | nil => rfl
      | cons c cs =>
          rw [components_separated (List.cons_ne_nil c cs),
            components_separated (List.cons_ne_nil c cs)]
          simp [pieces, componentOf]
  · exact components_separated base_ne path

/-! ## Paths without `..` -/

theorem infix_intercalate {separator piece : Text} {parts : List Text} (member : piece ∈ parts) :
    piece <:+: separator.intercalate parts := by
  induction parts with
  | nil => exact absurd member List.not_mem_nil
  | cons part parts induction =>
      cases parts with
      | nil =>
          obtain rfl := List.mem_singleton.mp member
          rw [List.intercalate_singleton]
      | cons next rest =>
          rw [List.intercalate_cons_cons]
          cases List.mem_cons.mp member with
          | inl same =>
              rw [same, List.append_assoc]
              exact (List.prefix_append part _).isInfix
          | inr later => exact (induction later).trans (List.suffix_append _ _).isInfix

theorem infix_of_mem_splitOn {piece : Text} (member : piece ∈ path.splitOn '/') :
    piece <:+: path := by
  rw [← @List.intercalate_splitOn _ path _ _ '/']
  exact infix_intercalate member

theorem componentOf_eq_some {piece : Text} {step : Component}
    (read : componentOf piece = some step) :
    (piece = ['.', '.'] ∧ step = .parentDir) ∨ step = .normal piece := by
  rw [componentOf] at read
  split at read
  · contradiction
  · split at read
    · next dots => exact Or.inl ⟨dots, (Option.some.inj read).symm⟩
    · exact Or.inr (Option.some.inj read).symm

theorem descends_pieces (straight : ¬ ['.', '.'] <:+: path) : Descends (pieces path) := by
  intro step member
  obtain ⟨piece, piece_mem, read⟩ := List.mem_filterMap.mp member
  rcases componentOf_eq_some read with ⟨dots, _⟩ | named
  · exact absurd (dots ▸ infix_of_mem_splitOn piece_mem) straight
  · simp [named]

theorem descends_components (relative : isAbsolute path = false)
    (straight : ¬ ['.', '.'] <:+: path) : Descends (components path) := by
  intro step member
  rw [components, List.mem_append] at member
  cases member with
  | inl first =>
      rw [front, if_neg (by simp [relative]), List.mem_ite_nil_right, List.mem_singleton] at first
      simp [first.2]
  | inr later => exact descends_pieces straight step later

/-- A relative path without two dots in a row stays below every base. -/
theorem below_join (base : Text) (relative : isAbsolute path = false)
    (straight : ¬ ['.', '.'] <:+: path) : Below base (join base path) := by
  by_cases base_eq : base = []
  · subst base_eq
    refine ⟨components path, descends_components relative straight, ?_⟩
    rw [join, if_neg (by simp [relative]), if_pos (Or.inl rfl)]
    rfl
  · exact ⟨pieces path, descends_pieces straight, components_join base_eq relative⟩

end Path
end Foundation
