import BundleHost.Path

/-!
# Absolute paths stay absolute

What is joined to an absolute path is absolute, and so is what is cleaned: steps up stop at the
root, which stays the first component.
-/

namespace BundleHost.Path

theorem isAbsolute_iff {path : String} :
    isAbsolute path = true ↔ ∃ rest, path.toList = '/' :: rest := by
  unfold isAbsolute
  cases path.toList <;> simp [eq_comm]

theorem isAbsolute_append {base : String} (h : isAbsolute base = true) (path : String) :
    isAbsolute (base ++ path) = true := by
  obtain ⟨rest, chars⟩ := isAbsolute_iff.mp h
  exact isAbsolute_iff.mpr ⟨rest ++ path.toList, by simp [chars]⟩

theorem isAbsolute_join {base : String} (h : isAbsolute base = true) (path : String) :
    isAbsolute (join base path) = true := by
  unfold join
  split
  · assumption
  · split
    · exact isAbsolute_append h path
    · exact isAbsolute_append (isAbsolute_append h "/") path

theorem isAbsolute_ofComponents (rest : List Component) :
    isAbsolute (ofComponents (.root :: rest)) = true :=
  isAbsolute_append rfl _

/-- Components in reverse order that lead from the root. -/
def Rooted (out : List Component) : Prop := out.getLast? = some .root

theorem Rooted.cleanStep {out : List Component} (h : Rooted out) (component : Component) :
    Rooted (cleanStep out component) := by
  unfold Rooted at h ⊢
  cases component with
  | current => exact h
  | root | name => simp [Path.cleanStep, List.getLast?_cons, h]
  | up =>
    -- Only a name is undone, and the root lies below it.
    match out, h with
    | .root :: _, h => exact h
    | .name _ :: below :: rest, h => simpa [Path.cleanStep, List.getLast?_cons_cons] using h
    | .up :: _, h | .current :: _, h => simp [Path.cleanStep, List.getLast?_cons_cons, h]

theorem Rooted.foldl_cleanStep {out : List Component} (h : Rooted out)
    (components : List Component) : Rooted (components.foldl Path.cleanStep out) := by
  induction components generalizing out with
  | nil => exact h
  | cons component rest ih => exact ih (h.cleanStep component)

/-- What is left of an absolute path after cleaning leads from the root. -/
theorem rooted_clean {path : String} (h : isAbsolute path = true) :
    Rooted ((components path).foldl cleanStep []) := by
  have start : Rooted (cleanStep [] .root) := rfl
  simp only [components, h, if_true, List.foldl_cons]
  exact start.foldl_cleanStep _

theorem isAbsolute_clean {path : String} (h : isAbsolute path = true) :
    isAbsolute (clean path) = true := by
  obtain ⟨rest, split⟩ : ∃ rest, cleanComponents path = .root :: rest := by
    rw [← List.head?_eq_some_iff, cleanComponents, List.head?_reverse]
    exact rooted_clean h
  rw [clean, split]
  exact isAbsolute_ofComponents rest

end BundleHost.Path
