import BundleHost.Document
import BundleHost.Proofs.Entries

/-!
# Trees

A tree is a document in which no table repeats a key. Making the keys of a document unique gives a
tree, and sorting the keys of a tree changes nothing but their order.

## Main statements

* `isTree_unique` — trees from documents.
* `get?_sorted` — what is found in a sorted tree.
-/

namespace BundleHost

namespace Entries

variable {α : Type}

theorem mem_put {key : String} {value : α} {entry : String × α} {entries : List (String × α)}
    (h : entry ∈ put key value entries) : entry = (key, value) ∨ entry ∈ entries := by
  induction entries with
  | nil => exact .inl (List.mem_singleton.mp h)
  | cons first rest ih =>
    obtain ⟨k, v⟩ := first
    rw [put] at h
    split at h
    next same =>
      subst same
      obtain rfl | later := List.mem_cons.mp h
      · exact .inl rfl
      · exact .inr (List.mem_cons_of_mem _ later)
    next =>
      obtain rfl | later := List.mem_cons.mp h
      · exact .inr List.mem_cons_self
      · exact (ih later).imp_right (List.mem_cons_of_mem _)

theorem mem_foldl_put {entry : String × α} {entries table : List (String × α)}
    (h : entry ∈ entries.foldl (fun table (key, value) => put key value table) table) :
    entry ∈ table ∨ entry ∈ entries := by
  induction entries generalizing table with
  | nil => exact .inl h
  | cons first rest ih =>
    obtain before | later := ih h
    · obtain rfl | before := mem_put before
      · exact .inr List.mem_cons_self
      · exact .inl before
    · exact .inr (List.mem_cons_of_mem _ later)

theorem mem_of_mem_distinct {entry : String × α} {entries : List (String × α)}
    (h : entry ∈ distinct entries) : entry ∈ entries :=
  (mem_foldl_put h).resolve_left List.not_mem_nil

end Entries

namespace Document

/-- No table repeats a key. -/
inductive IsTree : Document → Prop
  | null : IsTree .null
  | bool (value : Bool) : IsTree (.bool value)
  | int (value : Int) : IsTree (.int value)
  | float (literal : String) : IsTree (.float literal)
  | char (value : Char) : IsTree (.char value)
  | text (value : String) : IsTree (.text value)
  | list {items : List Document} (trees : ∀ item ∈ items, IsTree item) : IsTree (.list items)
  | table {entries : List (String × Document)} (nodup : (Entries.keys entries).Nodup)
    (trees : ∀ entry ∈ entries, IsTree entry.2) : IsTree (.table entries)

theorem IsTree.nodup_keys {entries : List (String × Document)} (tree : IsTree (.table entries)) :
    (Entries.keys entries).Nodup := by
  cases tree with
  | table nodup trees => exact nodup

theorem IsTree.of_mem {entries : List (String × Document)} (tree : IsTree (.table entries))
    {entry : String × Document} (mem : entry ∈ entries) : IsTree entry.2 := by
  cases tree with
  | table nodup trees => exact trees entry mem

theorem IsTree.of_mem_list {items : List Document} (tree : IsTree (.list items)) {item : Document}
    (mem : item ∈ items) : IsTree item := by
  cases tree with
  | list trees => exact trees item mem

theorem IsTree.of_lookup? {entries : List (String × Document)} (tree : IsTree (.table entries))
    {key : String} {document : Document} (found : Entries.lookup? key entries = some document) :
    IsTree document :=
  tree.of_mem (Entries.mem_of_lookup? found)

theorem IsTree.of_get? {document inner : Document} (tree : document.IsTree) {key : String}
    (found : document.get? key = some inner) : inner.IsTree := by
  cases document with
  | table entries => exact tree.of_lookup? found
  | _ => cases found

/-! ## Unique keys -/

mutual

theorem isTree_unique : (document : Document) → document.unique.IsTree
  | .null => .null
  | .bool value => .bool value
  | .int value => .int value
  | .float literal => .float literal
  | .char value => .char value
  | .text value => .text value
  | .list items => by
    rw [unique]
    exact .list (isTree_uniqueItems items)
  | .table entries => by
    rw [unique]
    refine .table (Entries.nodup_keys_distinct _) fun entry mem => ?_
    exact isTree_uniqueEntries entries entry (Entries.mem_of_mem_distinct mem)

theorem isTree_uniqueItems : (items : List Document) → ∀ item ∈ uniqueItems items, item.IsTree
  | [] => nofun
  | first :: rest => by
    intro item mem
    rw [uniqueItems] at mem
    obtain rfl | mem := List.mem_cons.mp mem
    · exact isTree_unique first
    · exact isTree_uniqueItems rest item mem

theorem isTree_uniqueEntries : (entries : List (String × Document)) →
    ∀ entry ∈ uniqueEntries entries, entry.2.IsTree
  | [] => nofun
  | (key, value) :: rest => by
    intro entry mem
    rw [uniqueEntries] at mem
    obtain rfl | mem := List.mem_cons.mp mem
    · exact isTree_unique value
    · exact isTree_uniqueEntries rest entry mem

end

/-! ## Sorted keys -/

theorem sortedItems_eq_map (items : List Document) : sortedItems items = items.map sorted := by
  induction items with
  | nil => rfl
  | cons item rest ih => rw [sortedItems, ih, List.map_cons]

theorem sortedEntries_eq_map (entries : List (String × Document)) :
    sortedEntries entries = entries.map fun entry => (entry.1, entry.2.sorted) := by
  induction entries with
  | nil => rfl
  | cons entry rest ih => rw [sortedEntries, ih, List.map_cons]

theorem sorted_list (items : List Document) : (list items).sorted = .list (items.map sorted) := by
  rw [sorted, sortedItems_eq_map]

theorem exists_table_of_sorted {document : Document} {entries : List (String × Document)}
    (eq : document.sorted = .table entries) : ∃ entries, document = .table entries := by
  cases document with
  | table entries => exact ⟨entries, rfl⟩
  | _ => simp [sorted] at eq

/-- The entries of a table in sorted order, each of them sorted. -/
def sortedTable (entries : List (String × Document)) : List (String × Document) :=
  Entries.sort (entries.map fun entry => (entry.1, entry.2.sorted))

theorem sorted_table {entries : List (String × Document)} (nodup : (Entries.keys entries).Nodup) :
    (table entries).sorted = .table (sortedTable entries) := by
  rw [sorted, sortedEntries_eq_map, Entries.distinct_of_nodup, sortedTable]
  rwa [Entries.keys_map]

theorem nodup_keys_sortedTable {entries : List (String × Document)}
    (nodup : (Entries.keys entries).Nodup) : (Entries.keys (sortedTable entries)).Nodup :=
  Entries.nodup_keys_sort (by rwa [Entries.keys_map])

theorem lookup?_sortedTable {entries : List (String × Document)}
    (nodup : (Entries.keys entries).Nodup) (key : String) :
    Entries.lookup? key (sortedTable entries) = (Entries.lookup? key entries).map sorted := by
  rw [sortedTable, Entries.lookup?_sort (by rwa [Entries.keys_map]), Entries.lookup?_map]

theorem get?_sorted {document : Document} (tree : document.IsTree) (key : String) :
    document.sorted.get? key = (document.get? key).map sorted := by
  cases document with
  | table entries =>
    rw [sorted_table tree.nodup_keys]
    exact lookup?_sortedTable tree.nodup_keys key
  | _ => rfl

theorem IsTree.sorted {document : Document} (tree : document.IsTree) : document.sorted.IsTree := by
  induction tree with
  | list trees ih =>
    rw [sorted_list]
    refine .list fun item mem => ?_
    obtain ⟨first, there, rfl⟩ := List.mem_map.mp mem
    exact ih first there
  | @table entries nodup trees ih =>
    rw [sorted_table nodup]
    refine .table (nodup_keys_sortedTable nodup) fun entry mem => ?_
    have mem := (Entries.sort_perm _).mem_iff.mp mem
    obtain ⟨first, there, rfl⟩ := List.mem_map.mp mem
    exact ih first there
  | null => exact .null
  | bool value => exact .bool value
  | int value => exact .int value
  | float literal => exact .float literal
  | char value => exact .char value
  | text value => exact .text value

end Document

end BundleHost
