import BundleHost.Proofs.Settings.Place

/-!
# Lists and maps after edits

Edits add entries to lists and write entries to maps. A list holds the entries that were added to
it, in the order of the edits and as often as they were added. A map holds every key that was
written, once: at the place of its first write and with the value of its last one. What was done to
other lists and maps or to scalar options in between makes no difference.

## Main statements

* `OrderedMap.Records.insert` — one more write to a map.
* `Edit.holds_run` — what a list or map holds after edits.
* `collections_in_order` — all lists and maps of settings that began with nothing.
-/

namespace BundleHost

open SettingsKind Settings

/-! ## Writes to a map -/

section Writes

variable {α : Type} {map : OrderedMap α} {writes : List (String × α)}

/-- The key `a` was written when `b` had not been written yet. -/
def WrittenBefore (writes : List (String × α)) (a b : String) : Prop :=
  ∃ before value after, writes = before ++ (a, value) :: after ∧ b ∉ Entries.keys before

/-- The map is what comes of writes that are made one after the other. -/
structure OrderedMap.Records (map : OrderedMap α) (writes : List (String × α)) : Prop where
  once : map.keys.Nodup
  mem_iff (key : String) : key ∈ map.keys ↔ ∃ value, (key, value) ∈ writes
  /-- The keys are in the order in which they were first written. -/
  ordered : map.keys.Pairwise (WrittenBefore writes)
  /-- The last write to a key counts. -/
  last (before : List (String × α)) (key : String) (value : α) (after : List (String × α)) :
    writes = before ++ (key, value) :: after → key ∉ Entries.keys after →
      map.get? key = some value

theorem WrittenBefore.append {a b : String} (h : WrittenBefore writes a b)
    (more : List (String × α)) : WrittenBefore (writes ++ more) a b := by
  obtain ⟨before, value, after, rfl, unwritten⟩ := h
  exact ⟨before, value, after ++ more, by simp, unwritten⟩

/-- What was written was written before a key that had not been written. -/
theorem writtenBefore_of_mem {key fresh : String} {value new : α} (mem : (key, value) ∈ writes)
    (unwritten : ∀ value, (fresh, value) ∉ writes) :
    WrittenBefore (writes ++ [(fresh, new)]) key fresh := by
  obtain ⟨before, after, rfl⟩ := List.append_of_mem mem
  refine ⟨before, value, after ++ [(fresh, new)], by simp, ?_⟩
  intro written
  obtain ⟨entry, mem, rfl⟩ := List.mem_map.mp written
  exact unwritten entry.2 (List.mem_append_left _ mem)

namespace OrderedMap

theorem records_empty : (empty : OrderedMap α).Records [] where
  once := empty.nodup_keys
  mem_iff key := by simp [empty, keys, Entries.keys]
  ordered := List.Pairwise.nil
  last before key value after split := by simp at split

theorem Records.ordered_insert (h : map.Records writes) (key : String) (value : α) :
    (map.insert key value).keys.Pairwise (WrittenBefore (writes ++ [(key, value)])) := by
  have earlier : map.keys.Pairwise (WrittenBefore (writes ++ [(key, value)])) :=
    h.ordered.imp fun first => first.append _
  rw [keys_insert]
  split
  next => exact earlier
  next fresh =>
    have unwritten : ∀ value, (key, value) ∉ writes := fun value mem =>
      fresh ((h.mem_iff key).mpr ⟨value, mem⟩)
    refine List.pairwise_append.mpr ⟨earlier, List.pairwise_singleton _ _, ?_⟩
    intro other there _ new
    obtain rfl := List.mem_singleton.mp new
    obtain ⟨_, mem⟩ := (h.mem_iff other).mp there
    exact writtenBefore_of_mem mem unwritten

/-- A write to a map is recorded. -/
theorem Records.insert (h : map.Records writes) (key : String) (value : α) :
    (map.insert key value).Records (writes ++ [(key, value)]) where
  once := (map.insert key value).nodup_keys
  mem_iff other := by
    have there := h.mem_iff other
    rw [keys_insert]
    split <;> grind
  ordered := h.ordered_insert key value
  last before other x after split unwritten := by
    rw [get?_insert]
    rcases List.eq_nil_or_concat after with rfl | ⟨after, final, rfl⟩
    · -- The write is the last one of all.
      obtain ⟨-, same⟩ := List.append_inj' split rfl
      obtain ⟨rfl, rfl⟩ := Prod.mk.inj (List.singleton_inj.mp same)
      exact if_pos rfl
    · have longer : writes ++ [(key, value)] = (before ++ (other, x) :: after) ++ [final] := by
        simpa using split
      obtain ⟨rfl, same⟩ := List.append_inj' longer rfl
      obtain rfl := List.singleton_inj.mp same
      have apart : other ≠ key ∧ other ∉ Entries.keys after := by
        simpa [Entries.keys, not_or, and_comm] using unwritten
      rw [if_neg apart.1]
      exact h.last before other x after rfl apart.2

end OrderedMap

end Writes

/-! ## Lists and maps of settings -/

variable {kind : SettingsKind}

/-- The list or map is what comes of entries that are added one after the other. -/
def SettingsKind.Collection.Holds : (c : Collection kind) → c.Content → List c.Entry → Prop
  | .pureNames, list, entries => list = entries
  | .dropLabels, list, entries => list = entries
  | .engines, list, entries => list = entries
  | .define, map, entries => map.Records entries
  | .logOverride, map, entries => map.Records entries
  | .supported, map, entries => map.Records entries
  | .entryPoints, list, entries => list = entries
  | .external, list, entries => list = entries
  | .inject, list, entries => list = entries

theorem Settings.holds_empty (c : kind.Collection) :
    c.Holds (content (empty : kind.Settings) c) [] := by
  cases kind <;> cases c <;> first | rfl | exact OrderedMap.records_empty

theorem Settings.holds_add {settings : kind.Settings} {c : kind.Collection}
    {entries : List c.Entry} (h : c.Holds (content settings c) entries) (entry : c.Entry) :
    c.Holds (content (add settings c entry) c) (entries ++ [entry]) := by
  cases kind <;> cases c <;>
    first
    | exact congrArg (· ++ [entry]) h
    | exact OrderedMap.Records.insert h entry.1 entry.2

/-- Adding to a list or map leaves all other places alone. -/
theorem Settings.held_add (settings : kind.Settings) {c : kind.Collection} (entry : c.Entry)
    {p : Place kind} (other : p ≠ .collection c) :
    held (add settings c entry) p = held settings p := by
  cases p with
  | scalar o => exact Edit.explicit?_add settings c entry o
  | collection d =>
    have apart : d ≠ c := fun same => other (congrArg _ same)
    exact Edit.content_add_of_ne settings apart entry

namespace Edit

/-- The entry that an edit adds to a list or map, if it does. -/
def entryFor? (c : kind.Collection) : Edit kind → Option c.Entry
  | .add d entry => if same : d = c then some (same ▸ entry) else none
  | _ => none

theorem entryFor?_eq_some_iff {c : kind.Collection} {edit : Edit kind} {entry : c.Entry} :
    edit.entryFor? c = some entry ↔ edit = .add c entry := by
  constructor
  · intro found
    cases edit with
    | add d given =>
      simp only [entryFor?] at found
      split at found
      next same =>
        subst same
        obtain rfl := Option.some.inj found
        rfl
      next => cases found
    | _ => cases found
  · rintro rfl
    simp [entryFor?]

/-- One edit: the list or map records what it adds, if it adds to it, and else stays. -/
theorem holds_perform {settings : kind.Settings} {c : kind.Collection} {entries : List c.Entry}
    (h : c.Holds (content settings c) entries) (edit : Edit kind) :
    c.Holds (content (edit.perform settings) c) (entries ++ (edit.entryFor? c).toList) := by
  cases found : edit.entryFor? c with
  | some entry =>
    obtain rfl := entryFor?_eq_some_iff.mp found
    exact holds_add h entry
  | none =>
    have apart : ∀ entry, edit ≠ .add c entry := by
      intro entry same
      rw [entryFor?_eq_some_iff.mpr same] at found
      cases found
    rw [content_perform edit settings apart, Option.toList_none, List.append_nil]
    exact h

theorem holds_run {settings : kind.Settings} {c : kind.Collection} {entries : List c.Entry}
    (h : c.Holds (content settings c) entries) (edits : List (Edit kind)) :
    c.Holds (content (run edits settings) c) (entries ++ edits.filterMap (entryFor? c)) := by
  induction edits generalizing settings entries with
  | nil => simpa [run] using h
  | cons edit rest ih =>
    have later := ih (holds_perform h edit)
    rw [List.append_assoc] at later
    have added : (edit :: rest).filterMap (entryFor? c) =
        (edit.entryFor? c).toList ++ rest.filterMap (entryFor? c) := by
      rw [List.filterMap_cons]
      cases edit.entryFor? c <;> rfl
    rw [added]
    exact later

end Edit

/-- Lists and maps of a kind of settings keep what is added to them, each for itself. -/
structure CollectsInOrder (kind : SettingsKind) : Prop where
  /-- After any edits of settings in which nothing was given, a list or map holds what was added
  to it. -/
  holds (edits : List (Edit kind)) (c : kind.Collection) :
    c.Holds (content (Edit.run edits empty) c) (edits.filterMap (Edit.entryFor? c))
  /-- Which edits add which entries. -/
  added_iff (edit : Edit kind) (c : kind.Collection) (entry : c.Entry) :
    edit.entryFor? c = some entry ↔ edit = .add c entry
  /-- Adding to one of them changes no other one and no scalar option. -/
  alone (settings : kind.Settings) (c : kind.Collection) (entry : c.Entry) (p : Place kind) :
    p ≠ .collection c → held ((Edit.add c entry).perform settings) p = held settings p

theorem collections_in_order (kind : SettingsKind) : CollectsInOrder kind where
  holds edits c := Edit.holds_run (holds_empty c) edits
  added_iff _ _ _ := Edit.entryFor?_eq_some_iff
  alone settings _ entry _ := held_add settings entry

/-- A key that is written again keeps its place; what is set in between does not count. -/
example :
    let edits : List (Edit .build) :=
      [.add .define ("A", "1"), .add .external "x", .add .define ("B", "2"),
        .set "format" (.text "esm"), .add .define ("A", "3"), .add .external "x"]
    (content (Edit.run edits empty) .define).entries = [("A", "3"), ("B", "2")] ∧
      content (Edit.run edits empty) .external = ["x", "x"] := by
  decide +kernel

end BundleHost
