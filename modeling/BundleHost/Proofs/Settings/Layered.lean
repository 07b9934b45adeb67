import BundleHost.Proofs.Document.Layers
import BundleHost.Proofs.Settings.Shape

/-!
# Places in layers

Where several layers state something about a place, the uppermost counts for options and lists. For
maps it counts key by key. The lowest layer, which states the defaults, is not seen.

## Main statements

* `readAt_layers_iff` — what is read from layers.
* `exists_layered_iff` — what can be read from a single layer.
* `Layered.exists` — what can be read from each layer can be read from both.
* `Layered.nonNull` — nulls in the lower layer may be left out.
-/

namespace BundleHost

open SettingsKind Settings

variable {kind : SettingsKind}

/-- What a place holds if an upper and a lower layer state something about it. -/
structure Layered (upper lower : Option Document) (p : Place kind) (x : p.Held) : Prop where
  /-- An option or list is what the uppermost layer states that states anything. -/
  value : p.isMap = false → p.readAt (upper.or lower) = .ok x
  /-- A map joins the entries of both layers, those of the upper one winning. -/
  map : p.isMap = true →
    (∀ document, upper.or lower = some document → ∃ entries, document = .table entries) ∧
    ∃ union, Entries.Sorted union ∧ (Entries.keys union).Nodup ∧
      (∀ key, Entries.lookup? key union =
        (upper.bind (·.get? key)).or (lower.bind (·.get? key))) ∧
      p.read (.table union) = .ok x

open Document

/-! ## Options and lists -/

theorem sorted_write_empty (p : Place kind) :
    (p.write (held empty p)).sorted = p.write (held empty p) := by
  cases kind <;> rcases p with (_ | _) | (_ | _) <;> rfl

theorem readAt_joined_some {p : Place kind} (other : p.isMap = false) {document : Document}
    (tree : document.IsTree) (lower : Option Document) {x : p.Held} :
    p.readAt ((joined lower (some document)).map sorted) = .ok x ↔ p.read document = .ok x := by
  by_cases shape : ∃ entries, document = .table entries
  · obtain ⟨entries, rfl⟩ := shape
    obtain ⟨above, eq⟩ := exists_joined_table lower entries
    have rejected : p.readAt (some (Document.table above).sorted) ≠ .ok x := by
      rw [sorted]
      exact Place.read_table_ne_ok other _ x
    rw [eq, Option.map_some]
    exact ⟨fun read => absurd read rejected,
      fun read => absurd read (Place.read_table_ne_ok other entries x)⟩
  · rw [joined_of_not_table lower fun entries eq => shape ⟨entries, eq⟩]
    exact (Place.steady other).sorted tree x

theorem readAt_layers_of_not_map {p : Place kind} (other : p.isMap = false)
    {base upper lower : Option Document}
    (unset : base = none ∨ base = some (p.write (held empty p)))
    (above : ∀ document, upper = some document → document.IsTree)
    (below : ∀ document, lower = some document → document.IsTree) {x : p.Held} :
    p.readAt ((joined (joined base lower) upper).map sorted) = .ok x ↔
      p.readAt (upper.or lower) = .ok x := by
  cases upper with
  | some document => exact readAt_joined_some other (above document rfl) _
  | none =>
    rw [joined_none, Option.none_or]
    cases lower with
    | some document => exact readAt_joined_some other (below document rfl) _
    | none =>
      rw [joined_none]
      obtain rfl | rfl := unset
      · rfl
      · rw [Option.map_some, sorted_write_empty p, Place.readAt, Place.read_write]
        rfl

/-! ## Maps -/

theorem write_empty_of_map {p : Place kind} (map : p.isMap = true) :
    p.write (held empty p) = .table [] := by
  obtain rfl | rfl | rfl := Place.isMap_iff.mp map <;> cases kind <;> rfl

theorem readAt_none_of_map {p : Place kind} (map : p.isMap = true) :
    p.readAt none = p.read (.table []) := by
  obtain rfl | rfl | rfl := Place.isMap_iff.mp map <;> cases kind <;> rfl

/-- A map is read from the sorted table of what is found in the layers. -/
theorem exists_readAt_eq {p : Place kind} (map : p.isMap = true) {found : Option Document}
    (tree : ∀ document, found = some document → document.IsTree)
    (shape : ∀ document, found = some document → ∃ entries, document = .table entries) :
    ∃ joint, p.readAt (found.map sorted) = p.read (.table joint) ∧
      Entries.Sorted joint ∧ (Entries.keys joint).Nodup ∧
      ∀ key, Entries.lookup? key joint = (found.bind (·.get? key)).map sorted := by
  cases found with
  | none => exact ⟨[], readAt_none_of_map map, .nil, List.nodup_nil, fun _ => rfl⟩
  | some document =>
    obtain ⟨entries, rfl⟩ := shape document rfl
    have nodup := (tree _ rfl).nodup_keys
    refine ⟨sortedTable entries, ?_, Entries.sorted_sort _, nodup_keys_sortedTable nodup,
      lookup?_sortedTable nodup⟩
    rw [Option.map_some, sorted_table nodup]
    rfl

theorem isLeaf_of_read_map {p : Place kind} (map : p.isMap = true)
    {entries : List (String × Document)} {x : p.Held} (read : p.read (.table entries) = .ok x)
    (key : String) (document : Document) (found : Entries.lookup? key entries = some document) :
    document.isLeaf = true :=
  (((Place.exists_read_table_iff map).mp ⟨x, read⟩ _ (Entries.mem_of_lookup? found)).isLeaf map).1

section Maps

variable {p : Place kind} {base upper lower : Option Document}

theorem eq_table_nil_of_unset (map : p.isMap = true)
    (unset : base = none ∨ base = some (p.write (held empty p))) (document : Document)
    (eq : base = some document) : document = .table [] := by
  obtain rfl | rfl := unset
  · cases eq
  · rw [← write_empty_of_map map]
    exact (Option.some.inj eq).symm

/-- Layers over a table are a table if the uppermost one is. -/
theorem exists_table_layers_iff
    (table : ∀ document, base = some document → ∃ entries, document = .table entries) :
    (∀ document, joined (joined base lower) upper = some document →
      ∃ entries, document = .table entries) ↔
    ∀ document, upper.or lower = some document → ∃ entries, document = .table entries := by
  constructor
  · intro shape document top
    cases upper with
    | some above => exact exists_table_of_joined shape document top
    | none =>
      rw [joined_none] at shape
      refine exists_table_of_joined shape document ?_
      rw [Option.none_or] at top
      rw [top, Option.some_or]
  · intro shape
    refine exists_table_joined fun document top => ?_
    cases upper with
    | some above => exact shape document top
    | none =>
      rw [Option.none_or] at top
      refine exists_table_joined (fun document top => ?_) document top
      cases lower with
      | some below => exact shape document top
      | none => exact table document top

theorem lookup?_layers (blank : ∀ document, base = some document → document = .table [])
    (above : ∀ document, upper = some document → document.IsTree)
    (below : ∀ document, lower = some document → document.IsTree)
    (shape : ∀ document, upper.or lower = some document → ∃ entries, document = .table entries)
    (key : String) :
    (joined (joined base lower) upper).bind (·.get? key) =
      joined (lower.bind (·.get? key)) (upper.bind (·.get? key)) := by
  have nothing : ∀ key, base.bind (·.get? key) = none := by
    intro key
    cases base with
    | none => rfl
    | some document =>
      rw [blank document rfl]
      rfl
  rw [get?_joined above, get?_joined_of_blank nothing below]
  rintro document rfl
  exact shape document rfl

theorem readAt_layers_of_map (map : p.isMap = true)
    (unset : base = none ∨ base = some (p.write (held empty p)))
    (above : ∀ document, upper = some document → document.IsTree)
    (below : ∀ document, lower = some document → document.IsTree) {x : p.Held} :
    p.readAt ((joined (joined base lower) upper).map sorted) = .ok x ↔
      (∀ document, upper.or lower = some document → ∃ entries, document = .table entries) ∧
      ∃ union, Entries.Sorted union ∧ (Entries.keys union).Nodup ∧
        (∀ key, Entries.lookup? key union =
          (upper.bind (·.get? key)).or (lower.bind (·.get? key))) ∧
        p.read (.table union) = .ok x := by
  have blank := eq_table_nil_of_unset map unset
  have table : ∀ document, base = some document → ∃ entries, document = .table entries :=
    fun document eq => ⟨[], blank document eq⟩
  have tree : ∀ document, joined (joined base lower) upper = some document → document.IsTree :=
    isTree_joined (isTree_joined (fun d eq => blank d eq ▸ .table List.nodup_nil nofun) below) above
  constructor
  · intro read
    have shape : ∀ document, joined (joined base lower) upper = some document →
        ∃ entries, document = .table entries := by
      intro document eq
      rw [eq] at read
      obtain ⟨entries, table⟩ := Place.exists_table_of_read map read
      exact exists_table_of_sorted table
    obtain ⟨joint, same, ordered, nodup, lookups⟩ := exists_readAt_eq map tree shape
    have shape := (exists_table_layers_iff table).mp shape
    rw [same] at read
    refine ⟨shape, joint, ordered, nodup, fun key => ?_, read⟩
    have found := lookups key
    rw [lookup?_layers blank above below shape] at found
    rw [found]
    -- What was read is made of leaves, which hide what is below them.
    refine sorted_joined_of_isLeaf (isLeaf_of_sorted_joined fun document eq => ?_)
    exact isLeaf_of_read_map map read key document (found.trans eq)
  · rintro ⟨shape, union, ordered, nodup, lookups, read⟩
    obtain ⟨joint, same, ordered', nodup', lookups'⟩ :=
      exists_readAt_eq map tree ((exists_table_layers_iff table).mpr shape)
    have equal : joint = union := by
      refine Entries.eq_of_sorted ordered' ordered nodup' nodup fun key => ?_
      rw [lookups', lookup?_layers blank above below shape, lookups]
      refine sorted_joined_of_isLeaf fun document eq => ?_
      exact isLeaf_of_read_map map read key document ((lookups key).trans eq)
    rw [same, equal, read]

end Maps

/-- What is read from layers over the defaults. -/
theorem readAt_layers_iff {p : Place kind} {base upper lower : Option Document}
    (unset : base = none ∨ base = some (p.write (held empty p)))
    (above : ∀ document, upper = some document → document.IsTree)
    (below : ∀ document, lower = some document → document.IsTree) {x : p.Held} :
    p.readAt ((joined (joined base lower) upper).map sorted) = .ok x ↔
      Layered upper lower p x := by
  cases kind : p.isMap with
  | true =>
    rw [readAt_layers_of_map kind unset above below]
    exact ⟨fun union => ⟨fun other => absurd (kind.symm.trans other) nofun, fun _ => union⟩,
      fun layered => layered.map kind⟩
  | false =>
    rw [readAt_layers_of_not_map kind unset above below]
    exact ⟨fun read => ⟨fun _ => read, fun map => absurd (kind.symm.trans map) nofun⟩,
      fun layered => layered.value kind⟩

/-! ## Layers that can be read -/

/-- A place of which nothing is stated is empty. -/
theorem Layered.eq_empty {p : Place kind} {x : p.Held} (layered : Layered none none p x) :
    x = held empty p := by
  cases map : p.isMap with
  | false => exact (Except.ok.inj (layered.value map)).symm
  | true =>
    obtain ⟨-, union, -, -, lookups, read⟩ := layered.map map
    rw [Entries.eq_nil_of_lookup? lookups, ← readAt_none_of_map map] at read
    exact (Except.ok.inj read).symm

theorem layered_none_comm {p : Place kind} {found : Option Document} {x : p.Held} :
    Layered found none p x ↔ Layered none found p x := by
  constructor <;> rintro ⟨value, map⟩
  · exact ⟨by simpa using value, by simpa using map⟩
  · exact ⟨by simpa using value, by simpa using map⟩

theorem Layered.alone_of_map {p : Place kind} (map : p.isMap = true) {found : Option Document}
    (tree : ∀ document, found = some document → document.IsTree) {x : p.Held}
    (layered : Layered none found p x) : ∃ y, p.readAt found = .ok y := by
  obtain ⟨shape, union, -, -, lookups, read⟩ := layered.map map
  cases found with
  | none => exact ⟨_, rfl⟩
  | some document =>
    obtain ⟨entries, rfl⟩ := shape document rfl
    refine (Place.exists_read_table_iff map).mpr fun entry mem => ?_
    have there : Entries.lookup? entry.1 union = some entry.2 :=
      (lookups entry.1).trans ((Entries.lookup?_eq_some_iff (tree _ rfl).nodup_keys).mpr mem)
    exact (Place.exists_read_table_iff map).mp ⟨x, read⟩ _ (Entries.mem_of_lookup? there)

theorem exists_layered_of_map {p : Place kind} (map : p.isMap = true) {found : Option Document}
    (tree : ∀ document, found = some document → document.IsTree) {y : p.Held}
    (read : p.readAt found = .ok y) : ∃ x, Layered none found p x := by
  obtain ⟨entries, same, shape, lookups, nodup⟩ : ∃ entries,
      p.readAt found = p.read (.table entries) ∧
      (∀ document, found = some document → ∃ entries, document = .table entries) ∧
      (∀ key, Entries.lookup? key entries = found.bind (·.get? key)) ∧
      (Entries.keys entries).Nodup := by
    cases found with
    | none => exact ⟨[], readAt_none_of_map map, nofun, fun _ => rfl, List.nodup_nil⟩
    | some document =>
      obtain ⟨entries, rfl⟩ := Place.exists_table_of_read map read
      refine ⟨entries, rfl, ?_, fun _ => rfl, (tree _ rfl).nodup_keys⟩
      rintro _ ⟨⟩
      exact ⟨_, rfl⟩
  have items := (Place.exists_read_table_iff map).mp ⟨y, same ▸ read⟩
  obtain ⟨x, sorted⟩ := (Place.exists_read_table_iff map).mpr fun entry mem =>
    items entry ((Entries.sort_perm entries).mem_iff.mp mem)
  refine ⟨x, fun other => absurd (map.symm.trans other) nofun, fun _ => ⟨?_, Entries.sort entries,
    Entries.sorted_sort _, Entries.nodup_keys_sort nodup, fun key => ?_, sorted⟩⟩
  · simpa using shape
  · rw [Entries.lookup?_sort nodup, lookups]
    simp

/-- A place that is no map, or of which nothing is stated, is read from a single layer as it
stands. -/
theorem layered_none_iff {p : Place kind} {found : Option Document}
    (unstated : p.isMap = true → found = none) {x : p.Held} :
    Layered none found p x ↔ p.readAt found = .ok x := by
  cases map : p.isMap with
  | false =>
    refine ⟨fun layered => ?_, fun read => ⟨fun _ => ?_, fun other => ?_⟩⟩
    · simpa using layered.value map
    · simpa using read
    · exact absurd (map.symm.trans other) nofun
  | true =>
    obtain rfl := unstated map
    constructor
    · intro layered
      rw [layered.eq_empty]
      rfl
    · intro read
      obtain ⟨y, layered⟩ := exists_layered_of_map map (by simp) read
      obtain rfl : held empty p = x := Except.ok.inj read
      rwa [← layered.eq_empty]

/-- A single layer can be read if it can be read as it stands. -/
theorem exists_layered_iff {p : Place kind} {found : Option Document}
    (tree : ∀ document, found = some document → document.IsTree) :
    (∃ x, Layered none found p x) ↔ ∃ x, p.readAt found = .ok x := by
  cases map : p.isMap with
  | true =>
    constructor
    · rintro ⟨_, layered⟩
      exact layered.alone_of_map map tree
    · rintro ⟨_, read⟩
      exact exists_layered_of_map map tree read
  | false =>
    exact exists_congr fun x => layered_none_iff fun other => absurd (map.symm.trans other) nofun

/-- What can be read from either layer alone can be read from both. -/
theorem Layered.exists {p : Place kind} {upper lower : Option Document} {x y : p.Held}
    (alone : Layered upper none p x) (below : Layered none lower p y) :
    ∃ z, Layered upper lower p z := by
  cases map : p.isMap with
  | false =>
    have read := alone.value map
    have read' := below.value map
    cases upper with
    | some document => exact ⟨x, fun _ => read, fun other => absurd (map.symm.trans other) nofun⟩
    | none => exact ⟨y, fun _ => read', fun other => absurd (map.symm.trans other) nofun⟩
  | true =>
    obtain ⟨shape, first, -, nodup, lookups, read⟩ := alone.map map
    obtain ⟨shape', second, -, nodup', lookups', read'⟩ := below.map map
    have items : ∀ entry ∈ Entries.union first second, p.IsItem entry.2 := by
      intro entry mem
      obtain there | there := Entries.mem_of_mem_union mem
      · exact (Place.exists_read_table_iff map).mp ⟨x, read⟩ entry there
      · exact (Place.exists_read_table_iff map).mp ⟨y, read'⟩ entry there
    obtain ⟨z, joint⟩ := (Place.exists_read_table_iff map).mpr items
    refine ⟨z, fun other => absurd (map.symm.trans other) nofun, fun _ => ⟨?_,
      Entries.union first second, Entries.sorted_sort _, Entries.nodup_keys_union nodup nodup',
      fun key => ?_, joint⟩⟩
    · intro document top
      cases upper with
      | some above => exact shape document top
      | none => exact shape' document top
    · rw [Entries.lookup?_union nodup nodup', lookups, lookups']
      simp

theorem bind_nonNull {lower : Option Document}
    (tree : ∀ document, lower = some document → document.IsTree) (key : String) :
    (nonNull lower).bind (·.get? key) = nonNull (lower.bind (·.get? key)) := by
  cases lower with
  | none => rfl
  | some document =>
    rw [nonNull]
    split
    next null =>
      cases document with
      | null => rfl
      | _ => cases null
    next => exact get?_withoutNulls (tree document rfl) key

/-- Nulls in the lower layer may be left out. -/
theorem Layered.nonNull {p : Place kind} {upper lower : Option Document} {x : p.Held}
    (tree : ∀ document, lower = some document → document.IsTree)
    (layered : Layered upper lower p x) : Layered upper (Document.nonNull lower) p x where
  value other := by
    have read := layered.value other
    cases upper with
    | some above => exact read
    | none =>
      cases lower with
      | none => exact read
      | some document =>
        rw [Option.none_or, Document.nonNull]
        split
        next null =>
          cases document with
          | null =>
            rw [Place.eq_empty_of_read_null other read]
            rfl
          | _ => cases null
        next => exact (Place.steady other).withoutNulls (tree document rfl) x read
  map map := by
    obtain ⟨shape, union, ordered, nodup, lookups, read⟩ := layered.map map
    refine ⟨fun document top => ?_, union, ordered, nodup, fun key => ?_, read⟩
    · cases upper with
      | some above => exact shape document top
      | none =>
        cases lower with
        | none => cases top
        | some below =>
          obtain ⟨entries, rfl⟩ := shape below rfl
          obtain rfl : (Document.table entries).withoutNulls = document := Option.some.inj top
          rw [Document.withoutNulls]
          exact ⟨_, rfl⟩
    · rw [lookups, bind_nonNull tree]
      cases here : upper.bind (·.get? key) with
      | some _ => rfl
      | none =>
        cases there : lower.bind (·.get? key) with
        | none => rfl
        | some document =>
          have found := lookups key
          rw [here, there, Option.none_or] at found
          have item := (Place.exists_read_table_iff map).mp ⟨x, read⟩ _
            (Entries.mem_of_lookup? found)
          obtain ⟨leaf, present⟩ := item.isLeaf map
          rw [Document.nonNull, present, if_neg Bool.false_ne_true, withoutNulls_of_isLeaf leaf]

end BundleHost
