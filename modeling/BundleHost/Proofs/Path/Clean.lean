import BundleHost.Path
import BundleHost.Proofs.Text.Split

/-!
# Cleaned paths

Cleaning keeps the components of which none undoes another: names on the root, or names on steps up.
From the text of such components the same components are read, so a path that was cleaned is left as
it is.

## Main statements

* `reduced_clean` — what is left after cleaning.
* `components_ofComponents` — reading the text of components.
* `clean_clean` — cleaning twice.
* `clean_join_empty` — cleaning a path that was joined with nothing.
-/

namespace BundleHost.Path

/-- A text between slashes that leads to what it names. -/
structure IsName (name : String) : Prop where
  nonempty : name ≠ ""
  no_slash : '/' ∉ name.toList
  ne_current : name ≠ "."
  ne_up : name ≠ ".."

/-- A component that can stand behind others. -/
inductive Inner : Component → Prop where
  | up : Inner .up
  | name {name : String} : IsName name → Inner (.name name)

/-- Components in reverse order of which none undoes another. -/
inductive Reduced : List Component → Prop where
  | nil : Reduced []
  | root : Reduced [.root]
  | up : Reduced [.up]
  | up_up {out : List Component} : Reduced (.up :: out) → Reduced (.up :: .up :: out)
  | name {name : String} {out : List Component} :
      IsName name → Reduced out → Reduced (.name name :: out)

/-! ## Cleaning -/

theorem Reduced.cleanStep {out : List Component} (h : Reduced out) {component : Component}
    (inner : Inner component) : Reduced (cleanStep out component) := by
  cases inner with
  | name isName => exact .name isName h
  | up =>
    cases h with
    | nil => exact .up
    | root => exact .root
    | up => exact .up_up .up
    | up_up h => exact .up_up (.up_up h)
    | name _ rest => exact rest

theorem Reduced.foldl_cleanStep {out : List Component} (h : Reduced out)
    {components : List Component} (inner : ∀ c ∈ components, Inner c) :
    Reduced (components.foldl Path.cleanStep out) := by
  induction components generalizing out with
  | nil => exact h
  | cons component rest ih =>
    obtain ⟨first, inner⟩ := List.forall_mem_cons.mp inner
    exact ih (h.cleanStep first) inner

/-- Components of which none undoes another are all kept. -/
theorem Reduced.foldl_cleanStep_reverse {out : List Component} (h : Reduced out) :
    out.reverse.foldl Path.cleanStep [] = out := by
  induction h with
  | nil => rfl
  | root => rfl
  | up => rfl
  | up_up _ ih => rw [List.reverse_cons, List.foldl_append, ih]; rfl
  | name _ _ ih => rw [List.reverse_cons, List.foldl_append, ih]; rfl

theorem inner_componentOfPiece {piece : List Char} (absent : '/' ∉ piece)
    (kept : isIdle piece = false) : Inner (componentOfPiece piece) := by
  rw [componentOfPiece]
  split
  next => exact .up
  next other =>
    simp only [isIdle, Bool.or_eq_false_iff, List.isEmpty_eq_false_iff,
      decide_eq_false_iff_not] at kept
    have read {text : String} (same : String.ofList piece = text) : piece = text.toList := by
      rw [← same, String.toList_ofList]
    exact .name
      { nonempty := fun same => kept.1 (read same)
        no_slash := by rwa [String.toList_ofList]
        ne_current := fun same => kept.2 (read same)
        ne_up := fun same => other (read same) }

/-- Behind a root or a dot there are steps up and names only. -/
theorem components_cases (path : String) :
    ∃ rest, (∀ c ∈ rest, Inner c) ∧
      (components path = .root :: rest ∨ components path = .current :: rest ∨
        components path = rest) := by
  have inner (parts : List (List Char)) (among : ∀ piece ∈ parts, piece ∈ pieces path) :
      ∀ c ∈ (parts.filter (!isIdle ·)).map componentOfPiece, Inner c := by
    intro c written
    obtain ⟨piece, kept, rfl⟩ := List.mem_map.mp written
    obtain ⟨mem, kept⟩ := List.mem_filter.mp kept
    have split : piece ∈ Text.splitOn '/' path.toList := by
      have here := among piece mem
      rw [pieces] at here
      split at here
      next => exact List.mem_of_mem_drop here
      next => exact here
    exact inner_componentOfPiece (Text.not_mem_of_mem_splitOn split) (by simpa using kept)
  simp only [components]
  split
  next => exact ⟨_, inner _ fun _ => id, .inl rfl⟩
  next =>
    split
    next more eq =>
      exact ⟨_, inner more fun piece mem => eq ▸ List.mem_cons_of_mem _ mem, .inr (.inl rfl)⟩
    next => exact ⟨_, inner _ fun _ => id, .inr (.inr rfl)⟩

/-- What is left after cleaning. -/
theorem reduced_clean (path : String) : Reduced ((components path).foldl cleanStep []) := by
  obtain ⟨rest, inner, eq | eq | eq⟩ := components_cases path
  · rw [eq]
    exact Reduced.root.foldl_cleanStep inner
  · rw [eq]
    have kept : Reduced (rest.foldl cleanStep []) := Reduced.nil.foldl_cleanStep inner
    exact kept
  · rw [eq]
    exact Reduced.nil.foldl_cleanStep inner

/-! ## Reading the text of components -/

/-- A component is read back from its text. -/
theorem Inner.componentOfPiece_eq {component : Component} (inner : Inner component) :
    componentOfPiece (componentText component).toList = component := by
  cases inner with
  | up => rfl
  | name isName =>
    rename_i name
    have other : name.toList ≠ ['.', '.'] := fun same =>
      isName.ne_up (String.toList_inj.mp same)
    rw [componentText, componentOfPiece, if_neg other, String.ofList_toList]

theorem Inner.text_eq {component : Component} (inner : Inner component) :
    '/' ∉ (componentText component).toList ∧ isIdle (componentText component).toList = false := by
  cases inner with
  | up => decide
  | name isName =>
    refine ⟨isName.no_slash, ?_⟩
    have nonempty : ¬ (componentText (.name _)).toList = [] := fun same =>
      isName.nonempty (String.toList_inj.mp same)
    have other : ¬ (componentText (.name _)).toList = ['.'] := fun same =>
      isName.ne_current (String.toList_inj.mp same)
    simp [isIdle, nonempty, other]

/-- The pieces of the text of components that can stand behind others. -/
def textPieces (inside : List Component) : List (List Char) :=
  inside.map fun component => (componentText component).toList

theorem toList_intercalate_text (inside : List Component) :
    (String.intercalate "/" (inside.map componentText)).toList =
      ['/'].intercalate (textPieces inside) := by
  rw [String.toList_intercalate, List.map_map]
  rfl

section Inside

variable {inside : List Component} (inner : ∀ c ∈ inside, Inner c)
include inner

theorem splitOn_textPieces (nonempty : inside ≠ []) :
    Text.splitOn '/' (['/'].intercalate (textPieces inside)) = textPieces inside := by
  refine Text.splitOn_intercalate (by simpa [textPieces] using nonempty) ?_
  intro piece listed
  obtain ⟨component, mem, rfl⟩ := List.mem_map.mp listed
  exact (inner component mem).text_eq.1

theorem map_componentOfPiece_textPieces :
    ((textPieces inside).filter (!isIdle ·)).map componentOfPiece = inside := by
  have kept : (textPieces inside).filter (!isIdle ·) = textPieces inside := by
    refine List.filter_eq_self.mpr fun piece listed => ?_
    obtain ⟨component, mem, rfl⟩ := List.mem_map.mp listed
    rw [(inner component mem).text_eq.2]
    rfl
  rw [kept, textPieces, List.map_map]
  refine (List.map_congr_left fun component mem => ?_).trans (List.map_id inside)
  exact (inner component mem).componentOfPiece_eq

theorem components_ofComponents_root :
    components (ofComponents (.root :: inside)) = .root :: inside := by
  have chars : (ofComponents (.root :: inside)).toList =
      '/' :: ['/'].intercalate (textPieces inside) := by
    rw [ofComponents, String.toList_append, toList_intercalate_text]
    rfl
  have absolute : isAbsolute (ofComponents (.root :: inside)) = true := by
    simp [isAbsolute, chars]
  have parts : pieces (ofComponents (.root :: inside)) =
      Text.splitOn '/' (['/'].intercalate (textPieces inside)) := by
    have first := @Text.splitOn_append '/' [] List.not_mem_nil
      (['/'].intercalate (textPieces inside))
    rw [List.nil_append] at first
    rw [pieces, if_pos absolute, chars, first]
    rfl
  rw [components, if_pos absolute, parts]
  by_cases nothing : inside = []
  · subst nothing
    rfl
  · rw [splitOn_textPieces inner nothing]
    exact congrArg _ (map_componentOfPiece_textPieces inner)

theorem components_ofComponents_inner (nonempty : inside ≠ []) :
    components (ofComponents inside) = inside := by
  obtain ⟨first, more, rfl⟩ := List.exists_cons_of_ne_nil nonempty
  obtain ⟨no_slash, busy⟩ := (inner first List.mem_cons_self).text_eq
  have chars : (ofComponents (first :: more)).toList =
      ['/'].intercalate (textPieces (first :: more)) := by
    rw [← toList_intercalate_text]
    cases inner first List.mem_cons_self <;> rfl
  have relative : isAbsolute (ofComponents (first :: more)) = false := by
    obtain ⟨tail, begins⟩ : ∃ tail, ['/'].intercalate (textPieces (first :: more)) =
        (componentText first).toList ++ tail := by
      cases more with
      | nil => exact ⟨[], by simp [textPieces]⟩
      | cons => exact ⟨_, by rw [textPieces, List.map_cons, List.map_cons,
          List.intercalate_cons_cons, List.append_assoc]⟩
    rw [isAbsolute, chars, begins]
    cases letters : (componentText first).toList with
    | nil => simp [isIdle, letters] at busy
    | cons c rest =>
      rw [letters] at no_slash
      simpa [eq_comm] using (not_or.mp (mt List.mem_cons.mpr no_slash)).1
  have parts : pieces (ofComponents (first :: more)) = textPieces (first :: more) := by
    rw [pieces, relative, if_neg Bool.false_ne_true, chars, splitOn_textPieces inner nonempty]
  rw [components, relative, if_neg Bool.false_ne_true, parts]
  split
  next eq =>
    -- The first piece is no dot.
    have dot : (componentText first).toList = ['.'] := (List.cons.inj eq).1
    rw [dot] at busy
    cases busy
  next => exact map_componentOfPiece_textPieces inner

end Inside

/-- At most the first component is the root, and all others can stand behind it. -/
def RootFirst (components : List Component) : Prop :=
  (∃ inside, components = .root :: inside ∧ ∀ c ∈ inside, Inner c) ∨ ∀ c ∈ components, Inner c

theorem RootFirst.concat {components : List Component} (h : RootFirst components)
    {component : Component} (inner : Inner component) : RootFirst (components ++ [component]) := by
  obtain ⟨inside, rfl, among⟩ | among := h
  · exact .inl ⟨inside ++ [component], rfl, by simpa [or_imp, forall_and] using ⟨among, inner⟩⟩
  · exact .inr (by simpa [or_imp, forall_and] using ⟨among, inner⟩)

theorem Reduced.rootFirst {out : List Component} (h : Reduced out) : RootFirst out.reverse := by
  have nothing : RootFirst [] := .inr (List.forall_mem_nil _)
  induction h with
  | nil => exact nothing
  | root => exact .inl ⟨[], rfl, List.forall_mem_nil _⟩
  | up => exact nothing.concat .up
  | up_up _ ih => rw [List.reverse_cons]; exact ih.concat .up
  | name isName _ ih => rw [List.reverse_cons]; exact ih.concat (.name isName)

/-- Reading the text of components that are left after cleaning. -/
theorem components_ofComponents {out : List Component} (h : Reduced out) (nonempty : out ≠ []) :
    components (ofComponents out.reverse) = out.reverse := by
  obtain ⟨inside, eq, inner⟩ | inner := h.rootFirst
  · rw [eq, components_ofComponents_root inner]
  · exact components_ofComponents_inner inner (by simpa using nonempty)

theorem clean_of_ne_nil {path : String} (left : cleanComponents path ≠ []) :
    clean path = ofComponents (cleanComponents path) := by
  rw [clean]
  split
  next nothing => exact absurd nothing left
  next => rfl

/-- The components of a cleaned path are what was left. -/
theorem components_clean {path : String} (left : cleanComponents path ≠ []) :
    components (clean path) = cleanComponents path := by
  rw [clean_of_ne_nil left]
  exact components_ofComponents (reduced_clean path) (by simpa [cleanComponents] using left)

/-- The same is left when a path is cleaned again. -/
theorem cleanComponents_clean (path : String) :
    cleanComponents (clean path) = cleanComponents path := by
  by_cases left : cleanComponents path = []
  · rw [clean, left]
    rfl
  · rw [cleanComponents, components_clean left, cleanComponents,
      (reduced_clean path).foldl_cleanStep_reverse]

@[simp]
theorem clean_clean (path : String) : clean (clean path) = clean path := by
  rw [clean, cleanComponents_clean]
  rfl

/-! ## Joining nothing -/

theorem pieces_append_slash {path : String} (nonempty : path ≠ "") :
    isAbsolute (path ++ "/") = isAbsolute path ∧ pieces (path ++ "/") = pieces path ++ [[]] := by
  have chars : (path ++ "/").toList = path.toList ++ ['/'] := String.toList_append
  have absolute : isAbsolute (path ++ "/") = isAbsolute path := by
    have letters : path.toList ≠ [] := by simpa using nonempty
    rw [isAbsolute, isAbsolute, chars, List.head?_append_of_ne_nil _ letters]
  refine ⟨absolute, ?_⟩
  rw [pieces, pieces, absolute, chars, Text.splitOn_concat_mark]
  split
  next =>
    have length := List.length_pos_iff.mpr (Text.splitOn_ne_nil '/' path.toList)
    exact List.drop_append_of_le_length length
  next => rfl

/-- A trailing slash does not count. -/
theorem components_append_slash {path : String} (nonempty : path ≠ "") :
    components (path ++ "/") = components path := by
  obtain ⟨absolute, parts⟩ := pieces_append_slash nonempty
  have idle (pieces : List (List Char)) :
      (pieces ++ [[]]).filter (!isIdle ·) = pieces.filter (!isIdle ·) := by
    simp [isIdle]
  rw [components, components, absolute, parts]
  split
  next => simp only [idle]
  next relative =>
    have some : pieces path ≠ [] := by
      rw [pieces, if_neg relative]
      exact Text.splitOn_ne_nil '/' path.toList
    obtain ⟨piece, more, eq⟩ := List.exists_cons_of_ne_nil some
    rw [eq, List.cons_append]
    by_cases dot : piece = ['.']
    · subst dot
      simp only [idle]
    · split
      next same => exact absurd (List.cons.inj same).1 dot
      next =>
        split
        next same => exact absurd (List.cons.inj same).1 dot
        next => simp only [← List.cons_append, idle]

theorem clean_join_empty (base : String) : clean (join base "") = clean base := by
  have relative : isAbsolute "" = false := rfl
  rw [join, relative, if_neg Bool.false_ne_true]
  split
  next => rw [String.append_empty]
  next behind =>
    have nonempty : base ≠ "" := by
      rintro rfl
      exact behind rfl
    rw [String.append_empty, clean, clean, cleanComponents, cleanComponents,
      components_append_slash nonempty]

end BundleHost.Path
