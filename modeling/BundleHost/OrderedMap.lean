/-!
# Ordered maps

Tables are lists of entries in the order in which their keys were first written. An ordered map is
such a list in which no key is repeated: writing a key again changes its value, not its place.
-/

namespace BundleHost

namespace Entries

variable {α : Type}

/-- The keys in order. -/
def keys (entries : List (String × α)) : List String := entries.map (·.1)

/-- Writes an entry: a key that is there keeps its place and gets the new value. -/
def put (key : String) (value : α) : List (String × α) → List (String × α)
  | [] => [(key, value)]
  | (k, v) :: rest => if k = key then (k, value) :: rest else (k, v) :: put key value rest

/-- The value of the first entry with a key. -/
def lookup? (key : String) : List (String × α) → Option α
  | [] => none
  | (k, v) :: rest => if k = key then some v else lookup? key rest

/-- The entries with every key once: at its first place, with its last value. -/
def distinct (entries : List (String × α)) : List (String × α) :=
  entries.foldl (fun table (key, value) => put key value table) []

/-- Writes an entry before the first one whose key is not less. -/
def insertSorted (entry : String × α) : List (String × α) → List (String × α)
  | [] => [entry]
  | other :: rest =>
    if other.1 < entry.1 then other :: insertSorted entry rest else entry :: other :: rest

/-- Entries by increasing code points of the keys; those with one key keep their order. -/
def sort (entries : List (String × α)) : List (String × α) := entries.foldr insertSorted []

theorem keys_put (key : String) (value : α) (entries : List (String × α)) :
    keys (put key value entries) =
      if key ∈ keys entries then keys entries else keys entries ++ [key] := by
  induction entries with
  | nil => simp [put, keys]
  | cons entry rest ih =>
    obtain ⟨k, v⟩ := entry
    unfold put
    by_cases h : k = key
    · simp [h, keys]
    · simp only [h, if_false]
      change k :: keys (put key value rest) = if key ∈ k :: keys rest then k :: keys rest
        else k :: keys rest ++ [key]
      rw [ih]
      by_cases m : key ∈ keys rest <;> simp [m, Ne.symm h]

theorem nodup_keys_put {key : String} {value : α} {entries : List (String × α)}
    (h : (keys entries).Nodup) : (keys (put key value entries)).Nodup := by
  rw [keys_put]
  split
  · exact h
  · rename_i absent
    exact List.nodup_append.2 ⟨h, by simp, by intro a ha b hb; simp at hb; grind⟩

theorem lookup?_put (key other : String) (value : α) (entries : List (String × α)) :
    lookup? other (put key value entries) =
      if other = key then some value else lookup? other entries := by
  induction entries with
  | nil => simp [put, lookup?, eq_comm]
  | cons entry rest ih =>
    obtain ⟨k, v⟩ := entry
    unfold put
    by_cases h : k = key
    · subst h
      by_cases o : other = k <;> simp [lookup?, o, eq_comm]
    · simp only [h, if_false, lookup?, ih]
      grind

theorem mem_keys_of_mem {key : String} {value : α} {entries : List (String × α)}
    (h : (key, value) ∈ entries) : key ∈ keys entries :=
  List.mem_map_of_mem (f := Prod.fst) h

/-- Where no key is repeated, every entry is found. -/
theorem lookup?_eq_some_iff {key : String} {value : α} {entries : List (String × α)}
    (nodup : (keys entries).Nodup) :
    lookup? key entries = some value ↔ (key, value) ∈ entries := by
  induction entries with
  | nil => simp [lookup?]
  | cons entry rest ih =>
    obtain ⟨k, v⟩ := entry
    obtain ⟨fresh, nodup⟩ := List.nodup_cons.mp nodup
    rw [lookup?, List.mem_cons]
    by_cases h : k = key
    · subst h
      have absent : (k, value) ∉ rest := fun h => fresh (mem_keys_of_mem h)
      simp [absent, eq_comm]
    · simp [h, Ne.symm h, ih nodup]

theorem lookup?_eq_find? (key : String) (entries : List (String × α)) :
    lookup? key entries = (entries.find? (·.1 = key)).map (·.2) := by
  induction entries with
  | nil => rfl
  | cons entry rest ih => by_cases h : entry.1 = key <;> simp [lookup?, h, ih]

theorem nodup_keys_foldl_put (entries table : List (String × α)) (h : (keys table).Nodup) :
    (keys (entries.foldl (fun table (key, value) => put key value table) table)).Nodup := by
  induction entries generalizing table with
  | nil => exact h
  | cons entry rest ih => exact ih _ (nodup_keys_put h)

theorem nodup_keys_distinct (entries : List (String × α)) : (keys (distinct entries)).Nodup :=
  nodup_keys_foldl_put entries [] List.nodup_nil

end Entries

/-- Entries in which no key is repeated. -/
structure OrderedMap (α : Type) where
  entries : List (String × α)
  nodup_keys : (Entries.keys entries).Nodup
  deriving DecidableEq

namespace OrderedMap

variable {α : Type}

def empty : OrderedMap α := ⟨[], List.nodup_nil⟩

def isEmpty (map : OrderedMap α) : Bool := map.entries.isEmpty

def keys (map : OrderedMap α) : List String := Entries.keys map.entries

def get? (map : OrderedMap α) (key : String) : Option α := Entries.lookup? key map.entries

def insert (map : OrderedMap α) (key : String) (value : α) : OrderedMap α :=
  ⟨Entries.put key value map.entries, Entries.nodup_keys_put map.nodup_keys⟩

/-- The map that results from writing entries one after the other. -/
def ofEntries (entries : List (String × α)) : OrderedMap α :=
  ⟨Entries.distinct entries, Entries.nodup_keys_distinct entries⟩

@[ext] theorem ext {a b : OrderedMap α} (h : a.entries = b.entries) : a = b := by
  cases a; cases b; congr

@[simp] theorem get?_insert (map : OrderedMap α) (key other : String) (value : α) :
    (map.insert key value).get? other = if other = key then some value else map.get? other :=
  Entries.lookup?_put key other value map.entries

@[simp] theorem keys_insert (map : OrderedMap α) (key : String) (value : α) :
    (map.insert key value).keys =
      if key ∈ map.keys then map.keys else map.keys ++ [key] :=
  Entries.keys_put key value map.entries

end OrderedMap

end BundleHost
