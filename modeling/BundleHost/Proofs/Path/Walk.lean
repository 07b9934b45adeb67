import BundleHost.Proofs.Path.Absolute
import BundleHost.Proofs.Path.Clean

/-!
# Where paths lead

As long as no directory is a link, a directory is known by the names that lead to it from the root,
and a path leads from one directory to another. A joined path leads where its second part leads from
where the first one leads; a cleaned path leads where it led before. The cleaned form of an absolute
path is nothing but the names that it leads to.

## Main statements

* `walk_join`, `walk_clean` — joined and cleaned paths.
* `isDirect_clean`, `IsDirect.clean_join` — the cleaned form of paths that lead from the root.
* `exists_isDirect_iff` — the absolute paths that are clean.
-/

namespace BundleHost.Path

/-- The directory that one component more leads to. A step up stops at the root. -/
def enter (dir : List String) : Component → List String
  | .root => []
  | .current => dir
  | .up => dir.dropLast
  | .name name => dir ++ [name]

/-- Where a path leads from a directory, which goes by the names that lead to it from the root. -/
def walk (dir : List String) (path : String) : List String := (components path).foldl enter dir

/-- The path that leads to a directory from the root, with nothing but its names. -/
def ofNames (names : List String) : String := "/" ++ String.intercalate "/" names

@[simp]
theorem walk_empty (dir : List String) : walk dir "" = dir := rfl

/-! ## Cleaned paths -/

/-- What is dropped while cleaning leads nowhere. -/
theorem foldl_enter_cleanStep (dir : List String) (out : List Component) (component : Component) :
    (cleanStep out component).reverse.foldl enter dir =
      enter (out.reverse.foldl enter dir) component := by
  cases component with
  | current => rfl
  | root => simp [cleanStep, enter]
  | name name => simp [cleanStep, enter]
  | up =>
    cases out with
    | nil => rfl
    | cons last rest => cases last <;> simp [cleanStep, enter]

theorem foldl_enter_foldl_cleanStep (dir : List String) (out rest : List Component) :
    (rest.foldl cleanStep out).reverse.foldl enter dir =
      rest.foldl enter (out.reverse.foldl enter dir) := by
  induction rest generalizing out with
  | nil => rfl
  | cons component rest ih =>
    rw [List.foldl_cons, ih, foldl_enter_cleanStep, List.foldl_cons]

theorem foldl_enter_cleanComponents (dir : List String) (path : String) :
    (cleanComponents path).foldl enter dir = walk dir path :=
  foldl_enter_foldl_cleanStep dir [] (components path)

/-- Cleaning a path does not change where it leads. -/
@[simp]
theorem walk_clean (dir : List String) (path : String) :
    walk dir (clean path) = walk dir path := by
  rw [← foldl_enter_cleanComponents dir path]
  by_cases left : cleanComponents path = []
  · rw [clean, left]
    rfl
  · rw [walk, components_clean left]

/-! ## Joined paths -/

/-- Where the text between two slashes leads. -/
def enterPiece (dir : List String) (piece : List Char) : List String :=
  if isIdle piece then dir else enter dir (componentOfPiece piece)

theorem foldl_enterPiece (dir : List String) (pieces : List (List Char)) :
    ((pieces.filter (!isIdle ·)).map componentOfPiece).foldl enter dir =
      pieces.foldl enterPiece dir := by
  induction pieces generalizing dir with
  | nil => rfl
  | cons piece rest ih =>
    rw [List.foldl_cons, enterPiece]
    cases idle : isIdle piece <;> simp [idle, ih]

/-- A path leads where its pieces lead, one after the other. -/
theorem walk_eq_foldl_enterPiece (dir : List String) (path : String) :
    walk dir path = (Text.splitOn '/' path.toList).foldl enterPiece
      (if isAbsolute path then [] else dir) := by
  rw [walk, components]
  by_cases absolute : isAbsolute path = true
  · obtain ⟨rest, chars⟩ := isAbsolute_iff.mp absolute
    have first := Text.splitOn_append_mark '/' [] rest
    rw [List.nil_append] at first
    rw [if_pos absolute, if_pos absolute, pieces, if_pos absolute, chars, first, List.foldl_cons,
      foldl_enterPiece]
    rfl
  · rw [if_neg absolute, if_neg absolute, pieces, if_neg absolute]
    split
    next more eq =>
      -- A dot in front is kept as a component, and leads nowhere.
      rw [List.foldl_cons, foldl_enterPiece, eq]
      rfl
    next => exact foldl_enterPiece dir _

/-- A path behind another one and a slash leads where it leads from there. -/
theorem foldl_enterPiece_append_slash (dir : List String) (before after : List Char) :
    (Text.splitOn '/' (before ++ '/' :: after)).foldl enterPiece dir =
      (Text.splitOn '/' after).foldl enterPiece
        ((Text.splitOn '/' before).foldl enterPiece dir) := by
  rw [Text.splitOn_append_mark, List.foldl_append]

/-- A joined path leads where its second part leads from where its first part leads. -/
theorem walk_join (dir : List String) (base path : String) :
    walk dir (join base path) = walk (walk dir base) path := by
  by_cases absolute : isAbsolute path = true
  · simp only [join, walk_eq_foldl_enterPiece, absolute, if_true]
  · rw [join, if_neg absolute]
    by_cases nothing : base = ""
    · subst nothing
      simp
    · have begins : base.toList ≠ [] := by simpa using nothing
      have start (rest : String) : isAbsolute (base ++ rest) = isAbsolute base := by
        rw [isAbsolute, isAbsolute, String.toList_append, List.head?_append_of_ne_nil _ begins]
      split
      next ends =>
        have last : base.toList.getLast? = some '/' := by simpa [nothing] using ends
        obtain ⟨before, chars⟩ := List.getLast?_eq_some_iff.mp last
        have trailing := foldl_enterPiece_append_slash
          (if isAbsolute base then [] else dir) before []
        rw [walk_eq_foldl_enterPiece dir, start, String.toList_append, chars, List.append_assoc,
          List.singleton_append, foldl_enterPiece_append_slash, walk_eq_foldl_enterPiece _ path,
          if_neg absolute, walk_eq_foldl_enterPiece dir base, chars, trailing]
        rfl
      next =>
        rw [String.append_assoc, walk_eq_foldl_enterPiece dir, start, String.toList_append,
          String.toList_append, walk_eq_foldl_enterPiece _ path, if_neg absolute,
          walk_eq_foldl_enterPiece dir base]
        exact foldl_enterPiece_append_slash _ base.toList path.toList

/-! ## Paths of names -/

/-- The path leads from the root, with no component but names. -/
structure IsDirect (path : String) (names : List String) : Prop where
  path_eq : path = ofNames names
  named : ∀ name ∈ names, IsName name

theorem foldl_enter_names (dir names : List String) :
    (names.map Component.name).foldl enter dir = dir ++ names := by
  induction names generalizing dir with
  | nil => simp
  | cons name rest ih => simp [enter, ih]

theorem ofNames_eq (names : List String) :
    ofNames names = ofComponents (.root :: names.map .name) := by
  rw [ofNames, ofComponents, List.map_map]
  exact congrArg _ (congrArg _ (List.map_id names).symm)

/-- What is left of a path from the root are names. -/
theorem Reduced.exists_names {out : List Component} (h : Reduced out) (rooted : Rooted out) :
    ∃ names : List String, (∀ name ∈ names, IsName name) ∧
      out.reverse = .root :: names.map .name := by
  induction h with
  | nil => cases rooted
  | root => exact ⟨[], List.forall_mem_nil _, rfl⟩
  | up => cases rooted
  | @up_up out h ih =>
    -- No step up is left on the root.
    obtain ⟨names, -, left⟩ := ih (by simpa [Rooted, List.getLast?_cons_cons] using rooted)
    have above : Component.up ∈ (Component.up :: out).reverse := by simp
    rw [left] at above
    simp at above
  | @name name out isName h ih =>
    cases out with
    | nil => cases rooted
    | cons below rest =>
      obtain ⟨names, named, left⟩ := ih (by simpa [Rooted, List.getLast?_cons_cons] using rooted)
      refine ⟨names ++ [name], ?_, ?_⟩
      · simpa [or_imp, forall_and] using ⟨named, isName⟩
      · rw [List.reverse_cons, left, List.map_append]
        rfl

/-- The cleaned form of an absolute path are the names that it leads to. -/
theorem isDirect_clean {path : String} (absolute : isAbsolute path = true) (dir : List String) :
    IsDirect (clean path) (walk dir path) := by
  obtain ⟨names, named, left⟩ := (reduced_clean path).exists_names (rooted_clean absolute)
  have left : cleanComponents path = .root :: names.map .name := left
  have led : walk dir path = names := by
    rw [← foldl_enter_cleanComponents, left, List.foldl_cons, foldl_enter_names]
    rfl
  refine ⟨?_, led ▸ named⟩
  rw [led, ofNames_eq, clean_of_ne_nil (by simp [left]), left]

namespace IsDirect

variable {path : String} {names : List String} (h : IsDirect path names)
include h

theorem isAbsolute_eq : isAbsolute path = true := by
  rw [h.path_eq]
  exact isAbsolute_append rfl _

theorem components_eq : components path = .root :: names.map .name := by
  have inner : ∀ c ∈ names.map Component.name, Inner c := by
    simpa using fun name mem => Inner.name (h.named name mem)
  rw [h.path_eq, ofNames_eq, components_ofComponents_root inner]

theorem walk_eq (dir : List String) : walk dir path = names := by
  rw [walk, h.components_eq, List.foldl_cons, foldl_enter_names]
  rfl

theorem clean_eq : clean path = path := by
  rw [(isDirect_clean h.isAbsolute_eq []).path_eq, h.walk_eq, h.path_eq]

/-- What a path leads to from a directory, as a path from the root. -/
theorem clean_join (given : String) : IsDirect (clean (join path given)) (walk names given) := by
  have led : walk [] (join path given) = walk names given := by rw [walk_join, h.walk_eq]
  rw [← led]
  exact isDirect_clean (isAbsolute_join h.isAbsolute_eq given) []

end IsDirect

/-- The absolute paths that are clean have no components but names. -/
theorem exists_isDirect_iff {path : String} :
    (∃ names, IsDirect path names) ↔ isAbsolute path = true ∧ clean path = path := by
  constructor
  · rintro ⟨names, direct⟩
    exact ⟨direct.isAbsolute_eq, direct.clean_eq⟩
  · rintro ⟨absolute, settled⟩
    refine ⟨walk [] path, ?_⟩
    have direct := isDirect_clean absolute []
    rwa [settled] at direct

end BundleHost.Path
