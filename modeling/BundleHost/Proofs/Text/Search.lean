import BundleHost.Text.Basic
import Mathlib.Data.List.Basic

/-!
# Searching in texts

A search goes on behind what it finds, and nothing is found before a character that could begin it.
The text behind the last occurrence of a mark does not depend on what stands before that occurrence.

## Main statements

* `scan_append_found`, `scan_append_of_not_mem`, `scan_eq_nil` — where a search finds something.
* `afterLast_go_append` — where the last occurrence of a mark does not lie.
-/

namespace BundleHost.Text

/-! ## Going on behind what was found -/

section Scan

variable {α : Type} {find : List Char → Option (α × List Char)}

/-- What was found is left out while it is skipped. -/
theorem scan_eq_drop (skip : Nat) (text : List Char) :
    scan find skip text = scan find 0 (text.drop skip) := by
  induction text generalizing skip with
  | nil => simp [scan]
  | cons c rest ih =>
    cases skip with
    | zero => rfl
    | succ skip => rw [scan, ih, List.drop_succ_cons]

theorem scan_append_found {front after : List Char} {found : α} (nonempty : front ≠ [])
    (here : find (front ++ after) = some (found, after)) :
    scan find 0 (front ++ after) = found :: scan find 0 after := by
  obtain ⟨c, rest, rfl⟩ := List.exists_cons_of_ne_nil nonempty
  rw [List.cons_append] at here ⊢
  simp only [scan, here]
  rw [scan_eq_drop, List.length_append, Nat.add_sub_cancel, List.drop_left]

/-- Nothing is found before the first character that could begin it. -/
theorem scan_append_of_not_mem {mark : Char}
    (begins : ∀ c rest, c ≠ mark → find (c :: rest) = none) {front : List Char}
    (absent : mark ∉ front) (rest : List Char) :
    scan find 0 (front ++ rest) = scan find 0 rest := by
  induction front with
  | nil => rfl
  | cons c front ih =>
    obtain ⟨other, absent⟩ := List.ne_and_not_mem_of_not_mem_cons absent
    simp only [List.cons_append, scan, begins c _ other.symm]
    exact ih absent

theorem scan_eq_nil {text : List Char} (none : ∀ rest, rest <:+ text → find rest = none) :
    scan find 0 text = [] := by
  induction text with
  | nil => rfl
  | cons c rest ih =>
    simp only [scan, none _ List.suffix_rfl]
    exact ih fun back suffix => none back (suffix.trans (List.suffix_cons c rest))

end Scan

/-! ## Behind the last mark -/

/-- The last occurrence does not begin where the first character of the mark does not stand. -/
theorem afterLast_go_append {first : Char} {mark front : List Char} (absent : first ∉ front)
    (rest : List Char) :
    afterLast.go (first :: mark) (front ++ rest) = afterLast.go (first :: mark) rest := by
  induction front with
  | nil => rfl
  | cons c front ih =>
    obtain ⟨other, absent⟩ := List.ne_and_not_mem_of_not_mem_cons absent
    simp [afterLast.go, List.isPrefixOf?, other, ih absent]

end BundleHost.Text
