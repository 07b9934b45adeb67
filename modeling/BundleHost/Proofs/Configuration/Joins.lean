import BundleHost.Configuration.Sources
import BundleHost.Proofs.Configuration.RoundTrip
import BundleHost.Proofs.Settings.Layered

/-!
# Joining an environment and a file

A configuration joins what an environment and a file state if every place of either part comes from
what the two state about it. That is how a configuration is read from the layers of both; the
defaults below them are not seen.

## Main statements

* `decode_layers_iff` — what is read from layers.
* `exists_joins` — what is accepted alone is accepted together.
* `exists_joins_iff_decode` — what is accepted alone.
* `Joins.withoutNulls` — nulls of the file may be left out.
-/

namespace BundleHost.Configuration

open SettingsKind Settings Document

section Layers

variable {file environment : Document}

theorem exists_table_sorted_iff {found : Option Document} :
    (∀ document, found.map sorted = some document → ∃ entries, document = .table entries) ↔
      ∀ document, found = some document → ∃ entries, document = .table entries := by
  cases found with
  | none => exact ⟨fun _ => nofun, fun _ => nofun⟩
  | some document =>
    constructor
    · rintro shape _ ⟨⟩
      obtain ⟨entries, eq⟩ := shape _ rfl
      exact exists_table_of_sorted eq
    · rintro shape _ ⟨⟩
      obtain ⟨entries, rfl⟩ := shape _ rfl
      rw [sorted]
      exact ⟨_, rfl⟩

theorem bind_sorted {found : Option Document}
    (tree : ∀ document, found = some document → document.IsTree) (key : String) :
    (found.map sorted).bind (·.get? key) = (found.bind (·.get? key)).map sorted := by
  cases found with
  | none => rfl
  | some document => exact get?_sorted (tree document rfl) key

/-- What layers state about a place: the defaults are below, or hidden. -/
theorem exists_stated_layers {base lower upper : Option Document} (key : String)
    (tree : ∀ document, base = some document → document.IsTree)
    (below : ∀ document, lower = some document → document.IsTree)
    (above : ∀ document, upper = some document → document.IsTree)
    (shape : ∀ document, upper.or lower = some document → ∃ entries, document = .table entries) :
    ∃ blank, (blank = none ∨ blank = base.bind (·.get? key)) ∧
      ((joined (joined base lower) upper).map sorted).bind (·.get? key) =
        (joined (joined blank (lower.bind (·.get? key))) (upper.bind (·.get? key))).map sorted := by
  have top : ∀ document, upper = some document → ∃ entries, document = .table entries := by
    rintro document rfl
    exact shape document rfl
  rw [bind_sorted (isTree_joined (isTree_joined tree below) above), get?_joined above top]
  by_cases table : ∀ document, lower = some document → ∃ entries, document = .table entries
  · exact ⟨_, .inr rfl, by rw [get?_joined below table]⟩
  · simp only [not_forall] at table
    obtain ⟨document, rfl, other⟩ := table
    refine ⟨none, .inl rfl, ?_⟩
    rw [joined_of_not_table base fun entries eq => other ⟨entries, eq⟩, none_joined]

theorem isTree_defaults : defaults.IsTree := isTree_encode {}

theorem stated_defaults (part : Part) (p : Place part.kind) :
    part.stated defaults p = some (p.write (held empty p)) := by
  have blank : ({} : Configuration).settings part = empty := by cases part <;> rfl
  rw [defaults, stated_encode, blank]

theorem Part.isTree_of_stated {part : Part} {p : Place part.kind} {whole : Document}
    (tree : whole.IsTree) (document : Document) (eq : part.stated whole p = some document) :
    document.IsTree := by
  obtain ⟨inner, there, eq⟩ := Option.bind_eq_some_iff.mp eq
  exact (tree.of_get? there).of_get? eq

/-- The configuration joins what the environment states with what a file states. -/
structure Joins (environment file : Document) (configuration : Configuration) : Prop where
  /-- Of the sections that they have for a part, the uppermost is a table. -/
  sections : ∀ (part : Part) (document : Document),
    (environment.get? part.name).or (file.get? part.name) = some document →
      ∃ entries, document = .table entries
  /-- Every place comes from what they state about it. -/
  places : ∀ (part : Part) (p : Place part.kind),
    Layered (part.stated environment p) (part.stated file p) p
      (held (configuration.settings part) p)

theorem decode_layers_iff (below : file.IsTree) (above : environment.IsTree)
    (table : ∃ entries, file = .table entries) (table' : ∃ entries, environment = .table entries)
    {configuration : Configuration} :
    decode ((defaults.overlay file).overlay environment).sorted = .ok configuration ↔
      Joins environment file configuration := by
  have parts : Joins environment file configuration ↔ ∀ part : Part,
      (∀ document, (environment.get? part.name).or (file.get? part.name) = some document →
        ∃ entries, document = .table entries) ∧
      ∀ p : Place part.kind, Layered (part.stated environment p) (part.stated file p) p
        (held (configuration.settings part) p) :=
    ⟨fun joins part => ⟨joins.sections part, joins.places part⟩,
      fun each => ⟨fun part => (each part).1, fun part => (each part).2⟩⟩
  rw [parts]
  have tree := (isTree_defaults.overlay below).overlay above
  obtain ⟨entries, eq⟩ : ∃ entries, ((defaults.overlay file).overlay environment).sorted =
      .table entries := by
    obtain ⟨inner, rfl⟩ := table'
    obtain ⟨merged, eq⟩ := exists_overlay_table (defaults.overlay file) inner
    rw [eq, sorted]
    exact ⟨_, rfl⟩
  rw [eq, decode_tree_eq_ok_iff (eq ▸ tree.sorted)]
  refine forall_congr' fun part => ?_
  have found : Entries.lookup? part.name entries =
      (joined (joined (defaults.get? part.name) (file.get? part.name))
        (environment.get? part.name)).map sorted := by
    change (Document.table entries).get? part.name = _
    rw [← eq, get?_sorted tree, get?_overlay above table', get?_overlay below table]
  have base : ∀ document, defaults.get? part.name = some document →
      document = Settings.encode (empty : part.kind.Settings) := by
    intro document eq
    cases part <;> exact (Option.some.inj eq).symm
  have trees : ∀ {whole : Document}, whole.IsTree → ∀ document,
      whole.get? part.name = some document → document.IsTree :=
    fun tree document eq => tree.of_get? eq
  rw [found, exists_table_sorted_iff, exists_table_layers_iff fun document eq =>
    ⟨_, (base document eq).trans (Settings.encode_eq _)⟩]
  refine and_congr_right fun shape => forall_congr' fun p => ?_
  obtain ⟨blank, unset, stated⟩ := exists_stated_layers p.name (trees isTree_defaults)
    (trees below) (trees above) shape
  have here : part.stated (.table entries) p =
      (joined (joined blank (part.stated file p)) (part.stated environment p)).map sorted := by
    change (Entries.lookup? part.name entries).bind _ = _
    rw [found]
    exact stated
  have unset : blank = none ∨ blank = some (p.write (held empty p)) := by
    rw [← stated_defaults part p]
    exact unset
  rw [here, readAt_layers_iff unset (Part.isTree_of_stated above) (Part.isTree_of_stated below)]

theorem exists_joins_iff : (∃ configuration, Joins environment file configuration) ↔
    ∀ part : Part,
      (∀ document, (environment.get? part.name).or (file.get? part.name) = some document →
        ∃ entries, document = .table entries) ∧
      ∀ p : Place part.kind, ∃ x, Layered (part.stated environment p) (part.stated file p) p x := by
  constructor
  · rintro ⟨configuration, joins⟩ part
    exact ⟨joins.sections part, fun p => ⟨_, joins.places part p⟩⟩
  · intro each
    choose values layered using fun part => (each part).2
    obtain ⟨configuration, holds⟩ := exists_held_settings values
    refine ⟨configuration, fun part => (each part).1, fun part p => ?_⟩
    rw [holds]
    exact layered part p

/-- What joins with either alone joins with both. -/
theorem exists_joins {fromFile fromEnvironment : Configuration}
    (lower : Joins (.table []) file fromFile)
    (upper : Joins environment (.table []) fromEnvironment) :
    ∃ configuration, Joins environment file configuration := by
  refine exists_joins_iff.mpr fun part => ⟨fun document top => ?_, fun p => ?_⟩
  · cases here : environment.get? part.name with
    | some above =>
      refine upper.sections part document ?_
      rw [here] at top ⊢
      exact top
    | none =>
      refine lower.sections part document ?_
      rw [here, Option.none_or] at top
      exact top
  · exact (upper.places part p).exists (lower.places part p)

/-- A document that stands alone is accepted if it can be read as it stands. -/
theorem exists_joins_iff_decode (tree : file.IsTree) (table : ∃ entries, file = .table entries) :
    (∃ configuration, Joins (.table []) file configuration) ↔
      ∃ configuration, decode file = .ok configuration := by
  obtain ⟨entries, rfl⟩ := table
  have reads : (∃ configuration, decode (.table entries) = .ok configuration) ↔ ∀ part : Part,
      (∀ document, Entries.lookup? part.name entries = some document →
        ∃ inner, document = .table inner) ∧
      ∀ p : Place part.kind, ∃ x, p.readAt (part.stated (.table entries) p) = .ok x := by
    simp only [decode_tree_eq_ok_iff tree]
    constructor
    · rintro ⟨configuration, read⟩ part
      exact ⟨(read part).1, fun p => ⟨_, (read part).2 p⟩⟩
    · intro each
      choose values read using fun part => (each part).2
      obtain ⟨configuration, holds⟩ := exists_held_settings values
      refine ⟨configuration, fun part => ⟨(each part).1, fun p => ?_⟩⟩
      rw [holds]
      exact read part p
  rw [reads, exists_joins_iff]
  refine forall_congr' fun part => and_congr Iff.rfl (forall_congr' fun p => ?_)
  exact exists_layered_iff (Part.isTree_of_stated tree)

/-- A document that stands alone and states nothing about maps is read as it stands. -/
theorem joins_iff_decode (tree : file.IsTree) (table : ∃ entries, file = .table entries)
    (noMaps : ∀ (part : Part) (p : Place part.kind), p.isMap = true → part.stated file p = none)
    {configuration : Configuration} :
    Joins (.table []) file configuration ↔ decode file = .ok configuration := by
  obtain ⟨entries, rfl⟩ := table
  rw [decode_tree_eq_ok_iff tree]
  constructor
  · rintro ⟨sections, places⟩ part
    exact ⟨sections part, fun p => (layered_none_iff (noMaps part p)).mp (places part p)⟩
  · intro each
    exact ⟨fun part => (each part).1,
      fun part p => (layered_none_iff (noMaps part p)).mpr ((each part).2 p)⟩

/-- Which of the two a document that stands alone is makes no difference. -/
theorem joins_nil_comm {configuration : Configuration} :
    Joins file (.table []) configuration ↔ Joins (.table []) file configuration := by
  constructor <;> rintro ⟨sections, places⟩
  · refine ⟨fun part document top => sections part document ?_, fun part p => ?_⟩
    · exact Option.or_none.trans top
    · exact layered_none_comm.mp (places part p)
  · refine ⟨fun part document top => sections part document ?_, fun part p => ?_⟩
    · exact Option.or_none.symm.trans top
    · exact layered_none_comm.mpr (places part p)

/-- Nulls of the file may be left out. -/
theorem Joins.withoutNulls (tree : file.IsTree) {configuration : Configuration}
    (joins : Joins environment file configuration) :
    Joins environment file.withoutNulls configuration where
  sections part document top := by
    rw [get?_withoutNulls tree] at top
    cases here : environment.get? part.name with
    | some above =>
      refine joins.sections part document ?_
      rw [here] at top ⊢
      exact top
    | none =>
      rw [here, Option.none_or] at top
      cases there : file.get? part.name with
      | none =>
        rw [there] at top
        cases top
      | some below =>
        obtain ⟨entries, rfl⟩ := joins.sections part below (by rw [here, there]; rfl)
        rw [there] at top
        obtain rfl : (Document.table entries).withoutNulls = document := Option.some.inj top
        rw [Document.withoutNulls]
        exact ⟨_, rfl⟩
  places part p := by
    have stated : part.stated file.withoutNulls p = nonNull (part.stated file p) := by
      rw [Part.stated, get?_withoutNulls tree]
      exact bind_nonNull (fun document eq => tree.of_get? eq) p.name
    rw [stated]
    exact (joins.places part p).nonNull (Part.isTree_of_stated tree)

end Layers

end BundleHost.Configuration
