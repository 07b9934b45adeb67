import BundleHost.Configuration.Basic
import BundleHost.Proofs.Document.Tree
import BundleHost.Proofs.Settings.Written

/-!
# Parts of configurations

A configuration has a part for builds and one for transforms, each with settings of its kind. From
a tree every place of either part is read on its own: from the entry of its name in the section of
the part.

## Main statements

* `decode_table_eq_ok_iff` — parts are read from their sections.
* `decode_tree_eq_ok_iff` — places are read from what the tree states about them.
* `decode_encode` — written configurations are read back.
-/

namespace BundleHost

open SettingsKind

namespace Configuration

inductive Part where
  | build
  | transform
  deriving DecidableEq, Repr

namespace Part

abbrev kind : Part → SettingsKind
  | .build => .build
  | .transform => .transform

/-- The key of the part's section. -/
def name : Part → String
  | .build => "build"
  | .transform => "transform"

theorem name_injective {a b : Part} (h : a.name = b.name) : a = b := by
  cases a <;> cases b <;> first | rfl | exact absurd h (by decide)

protected theorem «forall» {P : Part → Prop} : (∀ part, P part) ↔ P .build ∧ P .transform := by
  constructor
  · intro all
    exact ⟨all .build, all .transform⟩
  · rintro ⟨build, transform⟩ (_ | _)
    · exact build
    · exact transform

/-- What a document states about a place of the part. -/
def stated (part : Part) (document : Document) (p : Place part.kind) : Option Document :=
  (document.get? part.name).bind (·.get? p.name)

/-- Reads the part from its section, if there is one. -/
def readAt (part : Part) : Option Document → Except DecodeError part.kind.Settings
  | some document => Settings.decode document
  | none => .ok Settings.empty

/-- The section of the part as a field of configurations. -/
def field (part : Part) : Decoder.Field :=
  Decoder.field part.name .defaulted (Settings.decode : Decoder part.kind.Settings)

theorem mem_fields (part : Part) : part.field ∈ fields := by
  cases part with
  | build => exact List.mem_cons_self
  | transform => exact List.mem_cons_of_mem _ List.mem_cons_self

theorem accepts_field {part : Part} {found : Option Document} :
    part.field.Accepts found ↔ ∃ settings, part.readAt found = .ok settings := by
  cases found with
  | none => exact ⟨fun _ => ⟨_, rfl⟩, fun _ => nofun⟩
  | some document =>
    change (Settings.decode document).map (fun _ => ()) = .ok () ↔ _
    rw [Decoder.map_eq_ok_iff]
    simp [readAt]

end Part

/-- The settings of a part. -/
def settings (configuration : Configuration) : (part : Part) → part.kind.Settings
  | .build => configuration.build
  | .transform => configuration.transform

theorem exists_settings (f : (part : Part) → part.kind.Settings) :
    ∃ configuration : Configuration, ∀ part, configuration.settings part = f part :=
  ⟨⟨f .build, f .transform⟩, by rintro (_ | _) <;> rfl⟩

/-- Whatever the places of both parts shall hold, there is a configuration in which they do. -/
theorem exists_held_settings (f : (part : Part) → (p : Place part.kind) → p.Held) :
    ∃ configuration : Configuration, ∀ part p,
      Settings.held (configuration.settings part) p = f part p := by
  choose parts holds using fun part => Settings.exists_held (f part)
  obtain ⟨configuration, eq⟩ := exists_settings parts
  refine ⟨configuration, fun part p => ?_⟩
  rw [eq, holds]

/-! ## Reading -/

theorem decode_eq_ok_iff {document : Document} {configuration : Configuration} :
    decode document = .ok configuration ↔
      ∃ found, Decoder.record fields document = .ok found ∧ ∀ part : Part,
        part.readAt (Entries.lookup? part.name found) = .ok (configuration.settings part) := by
  have get : ∀ (part : Part) (found : List (String × Document)),
      Decoder.get found part.name Settings.decode Settings.empty =
        part.readAt (Entries.lookup? part.name found) := fun _ _ => rfl
  simp only [Part.forall, ← get, decode, Decoder.bind_eq_ok_iff, Except.ok.injEq]
  refine exists_congr fun found => and_congr_right fun _ => ?_
  constructor
  · rintro ⟨build, readBuild, transform, readTransform, rfl⟩
    exact ⟨readBuild, readTransform⟩
  · rintro ⟨readBuild, readTransform⟩
    exact ⟨_, readBuild, _, readTransform, rfl⟩

/-- Every part is read from its section. -/
theorem decode_table_eq_ok_iff {entries : List (String × Document)}
    (nodup : (Entries.keys entries).Nodup) {configuration : Configuration} :
    decode (.table entries) = .ok configuration ↔
      ∀ part : Part, part.readAt (Entries.lookup? part.name entries) =
        .ok (configuration.settings part) := by
  have names : (fields.map (·.name)).Nodup := by decide
  have found : ∀ part : Part, Entries.lookup? part.name (Decoder.fieldsOf fields entries) =
      Entries.lookup? part.name entries :=
    fun part => Decoder.lookup?_fieldsOf nodup part.mem_fields
  have accepts : (∀ field ∈ fields, field.Accepts (Entries.lookup? field.name entries)) ↔
      ∀ part : Part, ∃ settings,
        part.readAt (Entries.lookup? part.name entries) = .ok settings := by
    simp only [← Part.accepts_field]
    constructor
    · intro accepted part
      exact accepted part.field part.mem_fields
    · intro accepted
      exact List.forall_mem_cons.mpr
        ⟨accepted .build, List.forall_mem_singleton.mpr (accepted .transform)⟩
  simp only [decode_eq_ok_iff, Decoder.record_table_eq_ok_iff names nodup, accepts]
  constructor
  · rintro ⟨_, ⟨_, rfl⟩, read⟩ part
    rw [← found, read]
  · intro read
    refine ⟨_, ⟨fun part => ⟨_, read part⟩, rfl⟩, fun part => ?_⟩
    rw [found, read]

/-- Every place is read from what a tree states about it; sections have to be tables. -/
theorem decode_tree_eq_ok_iff {entries : List (String × Document)}
    (tree : (Document.table entries).IsTree) {configuration : Configuration} :
    decode (.table entries) = .ok configuration ↔
      ∀ part : Part,
        (∀ document, Entries.lookup? part.name entries = some document →
          ∃ inner, document = .table inner) ∧
        ∀ p : Place part.kind, p.readAt (part.stated (.table entries) p) =
          .ok (Settings.held (configuration.settings part) p) := by
  rw [decode_table_eq_ok_iff tree.nodup_keys]
  refine forall_congr' fun part => ?_
  have stated : ∀ p, part.stated (.table entries) p =
      (Entries.lookup? part.name entries).bind (·.get? p.name) := fun _ => rfl
  simp only [stated]
  cases found : Entries.lookup? part.name entries with
  | none =>
    change Except.ok Settings.empty = Except.ok _ ↔ (_ ∧ ∀ p, Except.ok _ = Except.ok _)
    simp only [Except.ok.injEq]
    constructor
    · rintro same
      exact ⟨nofun, fun p => by rw [same]⟩
    · rintro ⟨-, same⟩
      exact Settings.ext_held same
  | some document =>
    change Settings.decode document = _ ↔ _
    cases document with
    | table entries' =>
      rw [Settings.decode_table_eq_ok_iff (tree.of_lookup? found).nodup_keys]
      simp [Document.get?]
    | _ =>
      constructor
      · intro read
        exact absurd read (Settings.decode_of_not_table (by nofun) _)
      · rintro ⟨shape, -⟩
        obtain ⟨_, ⟨⟩⟩ := shape _ rfl

theorem read_eq_ok_iff {field : String} {document : Document} {configuration : Configuration} :
    read field document = .ok configuration ↔ decode document = .ok configuration := by
  rw [read]
  cases decode document <;> simp

theorem ofDocument_eq_ok_iff {document : Document} {configuration : Configuration} :
    ofDocument document = .ok configuration ↔ decode document = .ok configuration :=
  read_eq_ok_iff

/-! ## Written configurations -/

theorem decode_encode (configuration : Configuration) :
    decode configuration.encode = .ok configuration := by
  have nodup : (Entries.keys [("build", configuration.build.encode),
      ("transform", configuration.transform.encode)]).Nodup :=
    (by decide : ["build", "transform"].Nodup)
  rw [encode, decode_table_eq_ok_iff nodup]
  exact Part.forall.mpr ⟨@Settings.decode_encode .build configuration.build,
    @Settings.decode_encode .transform configuration.transform⟩

theorem isTree_encode (configuration : Configuration) : configuration.encode.IsTree := by
  refine .table (by decide : ["build", "transform"].Nodup) ?_
  simp only [List.forall_mem_cons]
  exact ⟨@Settings.isTree_encode .build configuration.build,
    @Settings.isTree_encode .transform configuration.transform, nofun⟩

end Configuration

end BundleHost
