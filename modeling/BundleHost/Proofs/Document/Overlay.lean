import BundleHost.Configuration.Layers
import BundleHost.Proofs.Document.Tree

/-!
# Layers of trees

Trees laid over each other are a tree, and in tables what is found under a key is what is found in
both layers, laid over each other. What variables of the environment give is such a tree.

## Main statements

* `get?_overlay` — what is found in layers.
* `IsTree.overlay`, `Environment.isTree_document` — layers of trees are trees.
-/

namespace BundleHost

namespace Document

/-- What two layers state, laid over each other where both state something. -/
def joined : Option Document → Option Document → Option Document
  | some lower, some upper => some (lower.overlay upper)
  | lower, none => lower
  | none, upper => upper

@[simp]
theorem joined_none (lower : Option Document) : joined lower none = lower := by
  cases lower <;> rfl

@[simp]
theorem none_joined (upper : Option Document) : joined none upper = upper := by
  cases upper <;> rfl

theorem overlay_table (lower upper : List (String × Document)) :
    (table lower).overlay (.table upper) = .table (overlayEntries lower upper) := by
  rw [overlay]

/-- A document that is no table counts as it is, whatever it is laid over. -/
theorem overlay_of_not_table (lower : Document) {upper : Document}
    (other : ∀ entries, upper ≠ .table entries) : lower.overlay upper = upper := by
  cases upper with
  | table entries => exact absurd rfl (other entries)
  | _ => simp only [overlay]

/-- Over what is no table, a document counts as it is. -/
theorem overlay_over_not_table {lower : Document} (other : ∀ entries, lower ≠ .table entries)
    (upper : Document) : lower.overlay upper = upper := by
  cases lower with
  | table entries => exact absurd rfl (other entries)
  | _ => cases upper <;> simp only [overlay]

theorem lookup?_overlayEntries {upper : List (String × Document)}
    (nodup : (Entries.keys upper).Nodup) (lower : List (String × Document)) (key : String) :
    Entries.lookup? key (overlayEntries lower upper) =
      joined (Entries.lookup? key lower) (Entries.lookup? key upper) := by
  induction upper generalizing lower with
  | nil => simp [overlayEntries]
  | cons entry rest ih =>
    obtain ⟨k, value⟩ := entry
    obtain ⟨fresh, nodup⟩ := List.nodup_cons.mp nodup
    simp only [overlayEntries]
    rw [ih nodup, Entries.lookup?_put]
    by_cases same : key = k
    · subst same
      rw [if_pos rfl, Entries.lookup?_eq_none_iff.mpr fresh, Entries.lookup?_cons_self]
      cases Entries.lookup? key lower <;> rfl
    · rw [if_neg same, Entries.lookup?_cons_of_ne (Ne.symm same)]

/-- What is found in layers of which the upper one is a table. -/
theorem get?_overlay {lower upper : Document} (tree : upper.IsTree)
    (shape : ∃ entries, upper = .table entries) (key : String) :
    (lower.overlay upper).get? key = joined (lower.get? key) (upper.get? key) := by
  obtain ⟨entries, rfl⟩ := shape
  cases lower with
  | table below =>
    rw [overlay_table]
    exact lookup?_overlayEntries tree.nodup_keys below key
  | _ =>
    rw [overlay_over_not_table]
    · exact (none_joined _).symm
    · exact fun _ => nofun

/-! ## Layers of trees -/

theorem IsTree.put {key : String} {value : Document} {entries : List (String × Document)}
    (tree : (Document.table entries).IsTree) (inner : value.IsTree) :
    (Document.table (Entries.put key value entries)).IsTree := by
  refine .table (Entries.nodup_keys_put tree.nodup_keys) fun entry mem => ?_
  obtain rfl | mem := Entries.mem_put mem
  · exact inner
  · exact tree.of_mem mem

theorem IsTree.overlay {lower upper : Document} (below : lower.IsTree) (above : upper.IsTree) :
    (lower.overlay upper).IsTree := by
  induction above generalizing lower with
  | @table entries nodup trees ih =>
    cases lower with
    | table under =>
      rw [overlay_table]
      clear nodup
      induction entries generalizing under with
      | nil => exact below
      | cons entry rest inner =>
        obtain ⟨key, value⟩ := entry
        simp only [overlayEntries]
        refine inner (fun e mem => trees e (List.mem_cons_of_mem _ mem))
          (fun e mem => ih e (List.mem_cons_of_mem _ mem)) _ (below.put ?_)
        cases found : Entries.lookup? key under with
        | none => exact trees (key, value) List.mem_cons_self
        | some there => exact ih (key, value) List.mem_cons_self (below.of_lookup? found)
    | _ =>
      rw [overlay_over_not_table]
      · exact .table nodup trees
      · exact fun _ => nofun
  | list trees =>
    rw [overlay_of_not_table]
    · exact .list trees
    · exact fun _ => nofun
  | null => exact .null
  | bool value => exact .bool value
  | int value => exact .int value
  | float literal => exact .float literal
  | char value => exact .char value
  | text value => exact .text value

theorem exists_overlay_table (lower : Document) (entries : List (String × Document)) :
    ∃ result, lower.overlay (.table entries) = .table result := by
  cases lower with
  | table below => exact ⟨_, overlay_table below entries⟩
  | _ =>
    refine ⟨entries, ?_⟩
    rw [overlay_over_not_table]
    exact fun _ => nofun

/-! ## The order of keys -/

theorem exists_table_iff_of_sorted_eq {a b : Document} (same : a.sorted = b.sorted) :
    (∃ entries, a = .table entries) ↔ ∃ entries, b = .table entries := by
  constructor
  · rintro ⟨entries, rfl⟩
    rw [sorted] at same
    exact exists_table_of_sorted same.symm
  · rintro ⟨entries, rfl⟩
    rw [sorted] at same
    exact exists_table_of_sorted same

theorem lookup?_of_sorted_eq {a b : List (String × Document)} (tree : (Document.table a).IsTree)
    (tree' : (Document.table b).IsTree)
    (same : (Document.table a).sorted = (Document.table b).sorted)
    (key : String) : (Entries.lookup? key a).map sorted = (Entries.lookup? key b).map sorted := by
  have found := get?_sorted tree key
  rw [same, get?_sorted tree' key] at found
  exact found.symm

theorem sorted_joined_congr {lower lower' upper upper' : Option Document}
    (low : lower.map sorted = lower'.map sorted) (up : upper.map sorted = upper'.map sorted)
    (both : ∀ a ∈ lower, ∀ a' ∈ lower', ∀ b ∈ upper, ∀ b' ∈ upper', a.sorted = a'.sorted →
      b.sorted = b'.sorted → (a.overlay b).sorted = (a'.overlay b').sorted) :
    (joined lower upper).map sorted = (joined lower' upper').map sorted := by
  cases upper with
  | none => rw [Option.map_eq_none_iff.mp up.symm, joined_none, joined_none, low]
  | some above =>
    obtain ⟨above', rfl, eq⟩ := Option.map_eq_some_iff.mp up.symm
    cases lower with
    | none => rw [Option.map_eq_none_iff.mp low.symm, none_joined, none_joined, up]
    | some below =>
      obtain ⟨below', rfl, eq'⟩ := Option.map_eq_some_iff.mp low.symm
      exact congrArg some (both below rfl below' rfl above rfl above' rfl eq'.symm eq.symm)

/-- The order of keys in the layers makes no difference but to the order of keys. -/
theorem sorted_overlay_congr {lower lower' upper upper' : Document} (below : lower.IsTree)
    (below' : lower'.IsTree) (above : upper.IsTree) (above' : upper'.IsTree)
    (same : lower.sorted = lower'.sorted) (same' : upper.sorted = upper'.sorted) :
    (lower.overlay upper).sorted = (lower'.overlay upper').sorted := by
  induction above generalizing lower lower' upper' with
  | @table entries nodup trees ih =>
    have shape := exists_table_iff_of_sorted_eq same
    obtain ⟨entries', rfl⟩ := (exists_table_iff_of_sorted_eq same').mp ⟨entries, rfl⟩
    by_cases table : ∃ entries, lower = .table entries
    · obtain ⟨under', rfl⟩ := shape.mp table
      obtain ⟨under, rfl⟩ := table
      have above := IsTree.table nodup trees
      have tree := below.overlay above
      have tree' := below'.overlay above'
      rw [overlay_table] at tree tree' ⊢
      rw [overlay_table, sorted_table tree.nodup_keys, sorted_table tree'.nodup_keys]
      refine congrArg Document.table (Entries.eq_of_sorted (Entries.sorted_sort _)
        (Entries.sorted_sort _) (nodup_keys_sortedTable tree.nodup_keys)
        (nodup_keys_sortedTable tree'.nodup_keys) fun key => ?_)
      rw [lookup?_sortedTable tree.nodup_keys, lookup?_sortedTable tree'.nodup_keys,
        lookup?_overlayEntries nodup, lookup?_overlayEntries above'.nodup_keys]
      refine sorted_joined_congr (lookup?_of_sorted_eq below below' same key)
        (lookup?_of_sorted_eq above above' same' key) fun a low a' low' b up b' up' => ?_
      exact ih (key, b) (Entries.mem_of_lookup? up) (below.of_lookup? low)
        (below'.of_lookup? low') (above'.of_lookup? up')
    · rw [overlay_over_not_table fun entries eq => table ⟨entries, eq⟩,
        overlay_over_not_table fun entries eq => table (shape.mpr ⟨entries, eq⟩), same']
  | _ =>
    rw [overlay_of_not_table, overlay_of_not_table, same']
    · exact fun entries eq => nomatch (exists_table_iff_of_sorted_eq same').mpr ⟨entries, eq⟩
    · exact fun _ => nofun

end Document

/-! ## The environment -/

namespace Environment

open Document

theorem isTree_valueOf (text : String) : (valueOf text).IsTree := by
  rw [valueOf]
  split
  · exact isTree_unique _
  · exact .text _

theorem isTree_nest (keys : List String) {document : Document} (tree : document.IsTree) :
    (nest keys document).IsTree := by
  induction keys with
  | nil => exact tree
  | cons key keys ih =>
    refine .table (List.nodup_singleton key) fun entry mem => ?_
    obtain rfl := List.mem_singleton.mp mem
    exact ih

/-- A name that counts leads through a key at least. -/
theorem keys?_ne_some_nil (name : String) : keys? name ≠ some [] := by
  have pieces : ∀ text : List Char, Text.splitOn '.' text ≠ [] := by
    intro text
    rw [Text.splitOn]
    induction text with
    | nil => exact nofun
    | cons c rest ih =>
      rw [Text.splitWhere]
      split
      · exact nofun
      · split <;> exact nofun
  simp only [keys?]
  split
  · split
    · exact nofun
    · intro none
      exact pieces _ (List.map_eq_nil_iff.mp (Option.some.inj none))
  · exact nofun

/-- The environment gives a table, and that table is a tree. -/
theorem isTree_document (vars : List (String × String)) :
    (document vars).IsTree ∧ ∃ entries, document vars = .table entries := by
  rw [document]
  generalize start : Document.table [] = table
  have tree : table.IsTree := start ▸ .table List.nodup_nil nofun
  have shape : ∃ entries, table = .table entries := ⟨[], start.symm⟩
  clear start
  induction vars generalizing table with
  | nil => exact ⟨tree, shape⟩
  | cons var rest ih =>
    rw [List.foldl_cons]
    cases keys : keys? var.1 with
    | none =>
      simp only [keys]
      exact ih table tree shape
    | some path =>
      simp only [keys]
      refine ih _ (tree.overlay (isTree_nest path (isTree_valueOf var.2))) ?_
      match path, keys with
      | [], keys => exact absurd keys (keys?_ne_some_nil var.1)
      | key :: keys, _ => exact exists_overlay_table _ _

end Environment

end BundleHost
