import BundleHost.Proofs.Decoder.Steady
import BundleHost.Proofs.Document.Overlay

/-!
# What layers state

Two layers may each state something or nothing. They state a table if the upper one does, or where
it states nothing the lower one. Where the uppermost layer that states anything states a leaf, the
leaf counts.

## Main statements

* `exists_table_of_joined`, `exists_table_joined` — when layers are a table.
* `get?_joined` — what is found in layers.
* `sorted_joined_of_isLeaf` — a leaf hides what is below it.
-/

namespace BundleHost.Document

/-! ## Tables in layers -/

theorem joined_of_not_table (lower : Option Document) {upper : Document}
    (other : ∀ entries, upper ≠ .table entries) : joined lower (some upper) = some upper := by
  cases lower with
  | none => rfl
  | some below => exact congrArg some (overlay_of_not_table below other)

theorem exists_joined_table (lower : Option Document) (entries : List (String × Document)) :
    ∃ result, joined lower (some (.table entries)) = some (.table result) := by
  cases lower with
  | none => exact ⟨entries, rfl⟩
  | some below => exact (exists_overlay_table below entries).imp fun _ => congrArg some

theorem isTree_joined {lower upper : Option Document}
    (below : ∀ document, lower = some document → document.IsTree)
    (above : ∀ document, upper = some document → document.IsTree) (document : Document)
    (eq : joined lower upper = some document) : document.IsTree := by
  match lower, upper with
  | none, none => cases eq
  | some lower, none => exact below document eq
  | none, some upper => exact above document eq
  | some lower, some upper =>
    obtain rfl := Option.some.inj eq
    exact (below lower rfl).overlay (above upper rfl)

/-- Layers are a table if the uppermost one is. -/
theorem exists_table_of_joined {lower upper : Option Document}
    (shape : ∀ document, joined lower upper = some document → ∃ entries, document = .table entries)
    (document : Document) (top : upper.or lower = some document) :
    ∃ entries, document = .table entries := by
  by_contra other
  have other : ∀ entries, document ≠ .table entries := fun entries eq => other ⟨entries, eq⟩
  cases upper with
  | none =>
    obtain rfl : lower = some document := top
    obtain ⟨entries, eq⟩ := shape document (joined_none _)
    exact other entries eq
  | some above =>
    obtain rfl : above = document := Option.some.inj top
    obtain ⟨entries, eq⟩ := shape above (joined_of_not_table lower other)
    exact other entries eq

theorem exists_table_joined {lower upper : Option Document}
    (shape : ∀ document, upper.or lower = some document → ∃ entries, document = .table entries)
    (document : Document) (eq : joined lower upper = some document) :
    ∃ entries, document = .table entries := by
  cases upper with
  | none =>
    rw [joined_none] at eq
    exact shape document eq
  | some above =>
    obtain ⟨entries, rfl⟩ := shape above rfl
    obtain ⟨result, table⟩ := exists_joined_table lower entries
    exact ⟨result, Option.some.inj (eq.symm.trans table)⟩

/-- What is found in layers of which the upper one is a table, if there is one. -/
theorem get?_joined {lower upper : Option Document}
    (tree : ∀ document, upper = some document → document.IsTree)
    (shape : ∀ document, upper = some document → ∃ entries, document = .table entries)
    (key : String) :
    (joined lower upper).bind (·.get? key) =
      joined (lower.bind (·.get? key)) (upper.bind (·.get? key)) := by
  cases upper with
  | none => simp
  | some above =>
    cases lower with
    | none => simp
    | some below => exact get?_overlay (tree above rfl) (shape above rfl) key

/-- A layer in which nothing is found is not seen. -/
theorem get?_joined_of_blank {base lower : Option Document}
    (blank : ∀ key, base.bind (·.get? key) = none)
    (tree : ∀ document, lower = some document → document.IsTree) (key : String) :
    (joined base lower).bind (·.get? key) = lower.bind (·.get? key) := by
  cases lower with
  | none => simp [blank]
  | some document =>
    by_cases shape : ∃ entries, document = .table entries
    · rw [get?_joined tree (fun _ eq => Option.some.inj eq ▸ shape), blank, none_joined]
    · rw [joined_of_not_table base fun entries eq => shape ⟨entries, eq⟩]

/-! ## Leaves in layers -/

theorem ne_table_of_isLeaf {document : Document} (leaf : document.isLeaf = true)
    (entries : List (String × Document)) : document ≠ .table entries := by
  rintro rfl
  cases leaf

/-- The upper one of two layers counts, if it is a leaf. -/
theorem sorted_joined_of_isLeaf {lower upper : Option Document}
    (leaf : ∀ document, upper.or lower = some document → document.isLeaf = true) :
    (joined lower upper).map sorted = upper.or lower := by
  cases upper with
  | none =>
    cases lower with
    | none => rfl
    | some document => exact congrArg some (sorted_of_isLeaf (leaf document rfl))
  | some document =>
    have leaf := leaf document rfl
    rw [joined_of_not_table lower (ne_table_of_isLeaf leaf), Option.map_some,
      sorted_of_isLeaf leaf, Option.some_or]

theorem isLeaf_of_sorted_joined {lower upper : Option Document}
    (leaf : ∀ document, (joined lower upper).map sorted = some document → document.isLeaf = true)
    (document : Document) (top : upper.or lower = some document) : document.isLeaf = true := by
  cases upper with
  | none =>
    obtain rfl : lower = some document := top
    rw [← isLeaf_sorted]
    exact leaf _ rfl
  | some above =>
    obtain rfl : above = document := Option.some.inj top
    by_cases shape : ∃ entries, above = .table entries
    · obtain ⟨entries, rfl⟩ := shape
      obtain ⟨_, eq⟩ := exists_joined_table lower entries
      have leaf := leaf _ (congrArg (Option.map sorted) eq)
      rw [isLeaf_sorted] at leaf
      cases leaf
    · rw [joined_of_not_table lower fun entries eq => shape ⟨entries, eq⟩] at leaf
      rw [← isLeaf_sorted]
      exact leaf _ rfl

end BundleHost.Document
