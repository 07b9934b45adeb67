import BundleHost.Proofs.Configuration.Files
import BundleHost.Proofs.Configuration.Joins
import BundleHost.Proofs.Settings.Given

/-!
# Layers of configuration sources

A configuration is loaded from a file with the environment laid over it. Every place of either part
comes from what the two state about it, and it does not count in which format and in which order the
file states what it states.

## Main statements

* `load_file_iff`, `load_none_iff` — what is loaded.
* `exists_load_file_iff`, `exists_load_none_iff` — which files and environments are accepted alone.
* `layers_of_sources` — what is loaded from a file and the environment.
-/

namespace BundleHost.Configuration

open SettingsKind Settings Document

/-- An explicit option holds something else than nothing. -/
theorem exists_held_ne_of_explicit {kind : SettingsKind} {settings : kind.Settings} {name : String}
    (explicit : name ∈ explicitOptions settings) :
    ∃ p : Place kind, p.name = name ∧ held settings p ≠ held empty p :=
  mem_explicitOptions_iff.mp explicit

section Loading

variable {disk : Disk} {path : String} {file : Document} {vars : List (String × String)}
  {configuration : Configuration}

theorem load_file_iff (read : readFile disk path = .ok (.ok file)) :
    load disk vars (some path) = .ok configuration ↔
      Joins (Environment.document vars) file configuration := by
  obtain ⟨below, table⟩ := isTree_of_readFile read
  obtain ⟨above, table'⟩ := Environment.isTree_document vars
  rw [← decode_layers_iff below above table table', ← read_eq_ok_iff, load, read]
  rfl

theorem load_none_iff :
    load disk vars none = .ok configuration ↔
      Joins (Environment.document vars) (.table []) configuration := by
  obtain ⟨above, table'⟩ := Environment.isTree_document vars
  have below : (Document.table []).IsTree := .table List.nodup_nil nofun
  rw [← decode_layers_iff below above ⟨[], rfl⟩ table', ← read_eq_ok_iff]
  rfl

/-- A file alone is accepted if its document can be read as it stands. -/
theorem exists_load_file_iff (read : readFile disk path = .ok (.ok file)) :
    (∃ configuration, load disk [] (some path) = .ok configuration) ↔
      ∃ configuration, decode file = .ok configuration := by
  obtain ⟨tree, table⟩ := isTree_of_readFile read
  simp only [load_file_iff read]
  exact exists_joins_iff_decode tree table

/-- The environment alone is accepted if its document can be read as it stands. -/
theorem exists_load_none_iff :
    (∃ configuration, load disk vars none = .ok configuration) ↔
      ∃ configuration, decode (Environment.document vars) = .ok configuration := by
  obtain ⟨tree, table⟩ := Environment.isTree_document vars
  simp only [load_none_iff, joins_nil_comm]
  exact exists_joins_iff_decode tree table

/-- What is loaded from a file and the environment. -/
structure LoadsInLayers (disk : Disk) (path : String) (file : Document)
    (vars : List (String × String)) : Prop where
  /-- A file and an environment that are accepted alone are accepted together. -/
  accepted : (∃ configuration, load disk [] (some path) = .ok configuration) →
    (∃ configuration, load disk vars none = .ok configuration) →
    ∃ configuration, load disk vars (some path) = .ok configuration
  /-- What they state is joined, the environment winning. -/
  joins : ∀ configuration, load disk vars (some path) = .ok configuration →
    Joins (Environment.document vars) file configuration
  /-- No option of which neither states anything is explicit. -/
  explicit : ∀ configuration, load disk vars (some path) = .ok configuration →
    ∀ (part : Part), ∀ name ∈ explicitOptions (configuration.settings part),
      ∃ p : Place part.kind, p.name = name ∧
        (part.stated (Environment.document vars) p ≠ none ∨ part.stated file p ≠ none)
  /-- Another file of the same tree, in whatever format, loads alike; nulls may be left out. -/
  format : ∀ configuration, load disk vars (some path) = .ok configuration →
    ∀ (disk' : Disk) (path' : String) (file' : Document),
      readFile disk' path' = .ok (.ok file') → file'.sorted = file.withoutNulls.sorted →
      load disk' vars (some path') = .ok configuration

theorem layers_of_sources (read : readFile disk path = .ok (.ok file))
    (vars : List (String × String)) : LoadsInLayers disk path file vars where
  accepted := by
    simp only [load_file_iff read, load_none_iff]
    rintro ⟨fromFile, lower⟩ ⟨fromEnvironment, upper⟩
    exact exists_joins lower upper
  joins _ := (load_file_iff read).mp
  explicit configuration loaded part name explicit := by
    obtain ⟨p, called, other⟩ := exists_held_ne_of_explicit explicit
    refine ⟨p, called, ?_⟩
    by_contra nothing
    simp only [not_or, not_not] at nothing
    have layered := ((load_file_iff read).mp loaded).places part p
    rw [nothing.1, nothing.2] at layered
    exact other layered.eq_empty
  format configuration loaded disk' path' file' read' same := by
    obtain ⟨below, table⟩ := isTree_of_readFile read
    obtain ⟨below', table'⟩ := isTree_of_readFile read'
    obtain ⟨above, top⟩ := Environment.isTree_document vars
    have shape : ∃ entries, file.withoutNulls = .table entries := by
      obtain ⟨entries, rfl⟩ := table
      rw [Document.withoutNulls]
      exact ⟨_, rfl⟩
    have joins := ((load_file_iff read).mp loaded).withoutNulls below
    rw [← decode_layers_iff below.withoutNulls above shape top] at joins
    have lower : (defaults.overlay file').sorted = (defaults.overlay file.withoutNulls).sorted :=
      sorted_overlay_congr isTree_defaults isTree_defaults below' below.withoutNulls rfl same
    rw [load_file_iff read', ← decode_layers_iff below' above table' top,
      sorted_overlay_congr (isTree_defaults.overlay below')
        (isTree_defaults.overlay below.withoutNulls) above above lower rfl]
    exact joins

end Loading

/-- A file that is there in both formats, with a null in one of them, below an environment that
joins a map and replaces a list. -/
theorem layers_of_sources_two_formats :
    let json := "\x7b\"build\": \x7b\"define\": \x7b\"b\": \"2\", \"a\": \"1\"\x7d,
      \"banner\": null, \"external\": [\"react\"]\x7d\x7d"
    let toml := "[build]\nexternal = ['react']\ndefine.a = '1'\ndefine.b = '2'"
    let disk : Disk := ⟨[(["keel.json"], .file json.toUTF8.toList),
      (["keel.toml"], .file toml.toUTF8.toList)]⟩
    let vars := [("KEEL_BUILD__DEFINE__A", "x"), ("keel_build__external", "[vue, vue]")]
    let file : Document := .table [("build", .table
      [("define", .table [("b", .text "2"), ("a", .text "1")]), ("banner", .null),
        ("external", .list [.text "react"])])]
    readFile disk "keel.json" = .ok (.ok file) ∧
    ∃ configuration, load disk vars (some "keel.json") = .ok configuration ∧
      Joins (Environment.document vars) file configuration ∧
      load disk vars (some "keel.toml") = .ok configuration := by
  intro json toml disk vars file
  have read : readFile disk "keel.json" = .ok (.ok file) := by decide +kernel
  have layers := layers_of_sources read vars
  obtain ⟨configuration, loaded⟩ := layers.accepted
    ((exists_load_file_iff read).mpr (Decoder.exists_ok_iff.mpr (by decide +kernel)))
    (exists_load_none_iff.mpr (Decoder.exists_ok_iff.mpr (by decide +kernel)))
  refine ⟨read, configuration, loaded, layers.joins _ loaded, ?_⟩
  let other : Document := .table [("build", .table
    [("external", .list [.text "react"]),
      ("define", .table [("a", .text "1"), ("b", .text "2")])])]
  exact layers.format _ loaded disk "keel.toml" other (by decide +kernel) (by decide +kernel)

end BundleHost.Configuration
