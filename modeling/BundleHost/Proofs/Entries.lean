import BundleHost.OrderedMap
import Mathlib.Data.List.Nodup
import Mathlib.Data.List.Perm.Basic

/-!
# Entries without repeated keys

As long as no key is repeated, entries are known by what is found under their keys: neither their
order nor writing them one after the other makes a difference, and once they are sorted they are
equal as soon as the same is found in them.

## Main statements

* `lookup?_perm`, `lookup?_sort` — the order does not count.
* `eq_of_sorted` — sorted entries are known by their look-ups.
-/

namespace BundleHost.Entries

variable {α β : Type}

/-- Sorted by increasing keys. -/
def Sorted (entries : List (String × α)) : Prop := entries.Pairwise fun a b => a.1 ≤ b.1

@[simp]
theorem lookup?_nil (key : String) : lookup? key ([] : List (String × α)) = none := rfl

theorem lookup?_cons_self (key : String) (value : α) (rest : List (String × α)) :
    lookup? key ((key, value) :: rest) = some value := by
  simp [lookup?]

theorem lookup?_cons_of_ne {key other : String} (h : other ≠ key) (value : α)
    (rest : List (String × α)) : lookup? key ((other, value) :: rest) = lookup? key rest := by
  simp [lookup?, h]

theorem lookup?_eq_none_iff {key : String} {entries : List (String × α)} :
    lookup? key entries = none ↔ key ∉ keys entries := by
  rw [lookup?_eq_find?, Option.map_eq_none_iff, List.find?_eq_none]
  constructor
  · intro absent mem
    obtain ⟨entry, mem, same⟩ := List.mem_map.mp mem
    exact absent entry mem (by simpa using same)
  · intro absent entry mem same
    exact absent (List.mem_map.mpr ⟨entry, mem, by simpa using same⟩)

theorem mem_of_lookup? {key : String} {value : α} {entries : List (String × α)}
    (found : lookup? key entries = some value) : (key, value) ∈ entries := by
  rw [lookup?_eq_find?, Option.map_eq_some_iff] at found
  obtain ⟨⟨other, same⟩, found, rfl⟩ := found
  obtain rfl : other = key := by simpa using List.find?_some found
  exact List.mem_of_find?_eq_some found

theorem lookup?_append (key : String) (first second : List (String × α)) :
    lookup? key (first ++ second) = (lookup? key first).or (lookup? key second) := by
  rw [lookup?_eq_find?, lookup?_eq_find?, lookup?_eq_find?, List.find?_append]
  cases List.find? (·.1 = key) first <;> rfl

theorem lookup?_map (key : String) (change : α → β) (entries : List (String × α)) :
    lookup? key (entries.map fun entry => (entry.1, change entry.2)) =
      (lookup? key entries).map change := by
  induction entries with
  | nil => rfl
  | cons entry rest ih =>
    by_cases same : entry.1 = key <;> simp [lookup?, same, ih]

theorem keys_map (change : α → β) (entries : List (String × α)) :
    keys (entries.map fun entry => (entry.1, change entry.2)) = keys entries := by
  simp [keys]

/-! ## Order -/

theorem lookup?_perm {a b : List (String × α)} (perm : a.Perm b) (nodup : (keys a).Nodup)
    (key : String) : lookup? key a = lookup? key b := by
  have nodup' : (keys b).Nodup := (perm.map Prod.fst).nodup_iff.mp nodup
  refine Option.ext fun value => ?_
  rw [lookup?_eq_some_iff nodup, lookup?_eq_some_iff nodup', perm.mem_iff]

theorem perm_of_lookup?_eq {a b : List (String × α)} (nodup : (keys a).Nodup)
    (nodup' : (keys b).Nodup) (same : ∀ key, lookup? key a = lookup? key b) : a.Perm b := by
  refine (List.perm_ext_iff_of_nodup nodup.of_map nodup'.of_map).mpr fun entry => ?_
  rw [← lookup?_eq_some_iff nodup, ← lookup?_eq_some_iff nodup', same]

theorem insertSorted_perm (entry : String × α) (entries : List (String × α)) :
    (insertSorted entry entries).Perm (entry :: entries) := by
  induction entries with
  | nil => exact .refl _
  | cons other rest ih =>
    rw [insertSorted]
    split
    · exact (ih.cons other).trans (.swap entry other rest)
    · exact .refl _

theorem sort_perm (entries : List (String × α)) : (sort entries).Perm entries := by
  induction entries with
  | nil => exact .refl _
  | cons entry rest ih => exact (insertSorted_perm entry (sort rest)).trans (ih.cons entry)

theorem nodup_keys_sort {entries : List (String × α)} (nodup : (keys entries).Nodup) :
    (keys (sort entries)).Nodup :=
  ((sort_perm entries).map Prod.fst).nodup_iff.mpr nodup

theorem lookup?_sort {entries : List (String × α)} (nodup : (keys entries).Nodup) (key : String) :
    lookup? key (sort entries) = lookup? key entries :=
  lookup?_perm (sort_perm entries) (nodup_keys_sort nodup) key

theorem Sorted.insertSorted {entries : List (String × α)} (sorted : Sorted entries)
    (entry : String × α) : Sorted (insertSorted entry entries) := by
  induction entries with
  | nil => exact .cons nofun .nil
  | cons other rest ih =>
    obtain ⟨least, sorted'⟩ := List.pairwise_cons.mp sorted
    rw [Entries.insertSorted]
    split
    next below =>
      refine .cons (fun e mem => ?_) (ih sorted')
      obtain rfl | mem := List.mem_cons.mp ((insertSorted_perm entry rest).mem_iff.mp mem)
      · exact String.not_lt.mp (String.lt_asymm below)
      · exact least e mem
    next above =>
      have first : entry.1 ≤ other.1 := String.not_lt.mp above
      refine .cons (fun e mem => ?_) sorted
      obtain rfl | mem := List.mem_cons.mp mem
      · exact first
      · exact String.le_trans first (least e mem)

theorem sorted_sort (entries : List (String × α)) : Sorted (sort entries) := by
  induction entries with
  | nil => exact .nil
  | cons entry rest ih => exact ih.insertSorted entry

/-- Sorted entries are known by their look-ups. -/
theorem eq_of_sorted {a b : List (String × α)} (sorted : Sorted a) (sorted' : Sorted b)
    (nodup : (keys a).Nodup) (nodup' : (keys b).Nodup)
    (same : ∀ key, lookup? key a = lookup? key b) : a = b := by
  have perm := perm_of_lookup?_eq nodup nodup' same
  refine perm.eq_of_pairwise (fun x y memX memY below above => ?_) sorted sorted'
  have key : x.1 = y.1 := String.le_antisymm below above
  have found : lookup? x.1 a = some x.2 := (lookup?_eq_some_iff nodup).mpr memX
  have found' : lookup? x.1 b = some y.2 := key ▸ (lookup?_eq_some_iff nodup').mpr memY
  rw [same, found', Option.some.injEq] at found
  exact Prod.ext key found.symm

/-- Entries with the same keys in one order are known by their look-ups. -/
theorem eq_of_keys_eq {a b : List (String × α)} (nodup : (keys a).Nodup)
    (sameKeys : keys a = keys b) (same : ∀ key ∈ keys a, lookup? key a = lookup? key b) :
    a = b := by
  have nodup' : (keys b).Nodup := sameKeys ▸ nodup
  refine List.ext_getElem ?_ fun i ha hb => ?_
  · simpa [keys] using congrArg List.length sameKeys
  · have key : a[i].1 = b[i].1 := by
      have here := congrArg (·[i]?) sameKeys
      simpa [keys, ha, hb] using here
    have found : lookup? a[i].1 a = some a[i].2 :=
      (lookup?_eq_some_iff nodup).mpr (List.getElem_mem ha)
    have found' : lookup? a[i].1 b = some b[i].2 :=
      key ▸ (lookup?_eq_some_iff nodup').mpr (List.getElem_mem hb)
    have here := same a[i].1 (mem_keys_of_mem (List.getElem_mem ha))
    rw [found, found', Option.some.injEq] at here
    exact Prod.ext key here

/-- The entries of both, sorted; where both have a key, the entry of the first. -/
def union (first second : List (String × α)) : List (String × α) :=
  sort (first ++ second.filter fun entry => entry.1 ∉ keys first)

theorem nodup_keys_append_filter {first second : List (String × α)} (nodup : (keys first).Nodup)
    (nodup' : (keys second).Nodup) :
    (keys (first ++ second.filter fun entry => entry.1 ∉ keys first)).Nodup := by
  rw [keys, List.map_append]
  refine List.nodup_append.mpr ⟨nodup, nodup'.sublist (List.filter_sublist.map _), ?_⟩
  rintro key mem other mem' rfl
  obtain ⟨entry, kept, rfl⟩ := List.mem_map.mp mem'
  exact of_decide_eq_true (List.mem_filter.mp kept).2 mem

theorem nodup_keys_union {first second : List (String × α)} (nodup : (keys first).Nodup)
    (nodup' : (keys second).Nodup) : (keys (union first second)).Nodup :=
  nodup_keys_sort (nodup_keys_append_filter nodup nodup')

theorem lookup?_union {first second : List (String × α)} (nodup : (keys first).Nodup)
    (nodup' : (keys second).Nodup) (key : String) :
    lookup? key (union first second) = (lookup? key first).or (lookup? key second) := by
  rw [union, lookup?_sort (nodup_keys_append_filter nodup nodup'), lookup?_append]
  cases found : lookup? key first with
  | some value => rfl
  | none =>
    have absent := lookup?_eq_none_iff.mp found
    rw [Option.none_or, Option.none_or, lookup?_eq_find?, lookup?_eq_find?, List.find?_filter]
    congr 2
    funext entry
    by_cases same : entry.1 = key
    · simp [same, absent]
    · simp [same]

theorem mem_of_mem_union {first second : List (String × α)} {entry : String × α}
    (mem : entry ∈ union first second) : entry ∈ first ∨ entry ∈ second := by
  obtain there | there := List.mem_append.mp ((sort_perm _).mem_iff.mp mem)
  · exact .inl there
  · exact .inr (List.mem_filter.mp there).1

theorem eq_nil_of_lookup? {entries : List (String × α)}
    (nothing : ∀ key, lookup? key entries = none) : entries = [] := by
  cases entries with
  | nil => rfl
  | cons entry rest =>
    have found := nothing entry.1
    rw [lookup?_cons_self] at found
    cases found

/-! ## Writing one after the other -/

theorem put_of_not_mem {key : String} {value : α} {entries : List (String × α)}
    (fresh : key ∉ keys entries) : put key value entries = entries ++ [(key, value)] := by
  induction entries with
  | nil => rfl
  | cons entry rest ih =>
    obtain ⟨here, later⟩ := List.ne_and_not_mem_of_not_mem_cons fresh
    rw [put, if_neg (Ne.symm here), ih later, List.cons_append]

theorem foldl_put_of_nodup {table entries : List (String × α)}
    (nodup : (keys (table ++ entries)).Nodup) :
    entries.foldl (fun table (key, value) => put key value table) table = table ++ entries := by
  induction entries generalizing table with
  | nil => simp
  | cons entry rest ih =>
    obtain ⟨key, value⟩ := entry
    have fresh : key ∉ keys table := by
      rw [keys, List.map_append] at nodup
      intro mem
      exact (List.nodup_append.mp nodup).2.2 key mem key (by simp) rfl
    rw [List.foldl_cons]
    simp only [put_of_not_mem fresh]
    rw [ih (by simpa using nodup), List.append_assoc, List.singleton_append]

theorem distinct_of_nodup {entries : List (String × α)} (nodup : (keys entries).Nodup) :
    distinct entries = entries :=
  @foldl_put_of_nodup α [] entries nodup

end BundleHost.Entries
