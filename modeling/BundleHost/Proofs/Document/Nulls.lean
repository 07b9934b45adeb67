import BundleHost.Proofs.Document.Tree

/-!
# Trees without nulls

A null says that nothing is given. Formats that cannot write it leave it out, with its key.

## Main statements

* `get?_withoutNulls` — what is found when nulls are left out.
* `IsTree.withoutNulls` — leaving nulls out of a tree gives a tree.
-/

namespace BundleHost.Document

def isNull : Document → Bool
  | .null => true
  | _ => false

mutual

/-- The document with nulls left out of its lists and tables. -/
def withoutNulls : Document → Document
  | .list items => .list (itemsWithoutNulls items)
  | .table entries => .table (entriesWithoutNulls entries)
  | document => document

def itemsWithoutNulls : List Document → List Document
  | [] => []
  | item :: rest =>
    if item.isNull then itemsWithoutNulls rest else item.withoutNulls :: itemsWithoutNulls rest

def entriesWithoutNulls : List (String × Document) → List (String × Document)
  | [] => []
  | (key, value) :: rest =>
    if value.isNull then entriesWithoutNulls rest
    else (key, value.withoutNulls) :: entriesWithoutNulls rest

end

/-- What is left of something that may be null. -/
def nonNull : Option Document → Option Document
  | some document => if document.isNull then none else some document.withoutNulls
  | none => none

theorem itemsWithoutNulls_eq (items : List Document) :
    itemsWithoutNulls items = (items.filter (!·.isNull)).map withoutNulls := by
  induction items with
  | nil => simp [itemsWithoutNulls]
  | cons item rest ih => cases null : item.isNull <;> simp [itemsWithoutNulls, null, ih]

theorem entriesWithoutNulls_eq (entries : List (String × Document)) :
    entriesWithoutNulls entries =
      (entries.filter (!·.2.isNull)).map fun entry => (entry.1, entry.2.withoutNulls) := by
  induction entries with
  | nil => simp [entriesWithoutNulls]
  | cons entry rest ih => cases null : entry.2.isNull <;> simp [entriesWithoutNulls, null, ih]

theorem nodup_keys_entriesWithoutNulls {entries : List (String × Document)}
    (nodup : (Entries.keys entries).Nodup) :
    (Entries.keys (entriesWithoutNulls entries)).Nodup := by
  rw [entriesWithoutNulls_eq, Entries.keys_map]
  exact nodup.sublist (List.filter_sublist.map _)

theorem lookup?_entriesWithoutNulls {entries : List (String × Document)}
    (nodup : (Entries.keys entries).Nodup) (key : String) :
    Entries.lookup? key (entriesWithoutNulls entries) = nonNull (Entries.lookup? key entries) := by
  induction entries with
  | nil => simp [entriesWithoutNulls, nonNull]
  | cons entry rest ih =>
    obtain ⟨k, value⟩ := entry
    obtain ⟨fresh, nodup⟩ := List.nodup_cons.mp nodup
    rw [entriesWithoutNulls]
    by_cases same : k = key
    · subst same
      rw [Entries.lookup?_cons_self, nonNull]
      split
      · rw [ih nodup, Entries.lookup?_eq_none_iff.mpr fresh, nonNull]
      · rw [Entries.lookup?_cons_self]
    · rw [Entries.lookup?_cons_of_ne same]
      split
      · exact ih nodup
      · rw [Entries.lookup?_cons_of_ne same, ih nodup]

theorem get?_withoutNulls {document : Document} (tree : document.IsTree) (key : String) :
    document.withoutNulls.get? key = nonNull (document.get? key) := by
  cases document with
  | table entries =>
    rw [withoutNulls]
    exact lookup?_entriesWithoutNulls tree.nodup_keys key
  | list items =>
    rw [withoutNulls]
    rfl
  | _ => rfl

theorem IsTree.withoutNulls {document : Document} (tree : document.IsTree) :
    document.withoutNulls.IsTree := by
  induction tree with
  | list trees ih =>
    rw [Document.withoutNulls, itemsWithoutNulls_eq]
    refine .list fun item mem => ?_
    obtain ⟨first, there, rfl⟩ := List.mem_map.mp mem
    exact ih first (List.mem_filter.mp there).1
  | @table entries nodup trees ih =>
    rw [Document.withoutNulls]
    refine .table (nodup_keys_entriesWithoutNulls nodup) fun entry mem => ?_
    rw [entriesWithoutNulls_eq] at mem
    obtain ⟨first, there, rfl⟩ := List.mem_map.mp mem
    exact ih first (List.mem_filter.mp there).1
  | null => exact .null
  | bool value => exact .bool value
  | int value => exact .int value
  | float literal => exact .float literal
  | char value => exact .char value
  | text value => exact .text value

end BundleHost.Document
