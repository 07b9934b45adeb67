import BundleHost.Proofs.Configuration.Part

/-!
# Normal forms of configurations

A configuration is written in one way: both sections, in each of them every option once and in
order, null where it is unset, and else in its own spelling. Whatever document is read and written
again comes out in that form, and stays as it is from then on.

## Main statements

* `IsNormal.eq_encode` — a configuration has one normal form.
* `round_trip` — reading what was written, and writing what was read.
-/

namespace BundleHost

open SettingsKind Settings

namespace Configuration

/-- Written in the one way in which configurations are. -/
structure IsNormal (document : Document) : Prop where
  sections : ∃ entries, document = .table entries ∧ Entries.keys entries = ["build", "transform"]
  options : ∀ part : Part, ∃ entries, document.get? part.name = some (.table entries) ∧
    Entries.keys entries = namesInOrder part.kind
  values : ∀ (part : Part) (p : Place part.kind), ∃ x, part.stated document p = some (p.write x)

/-- The document as it is written after it was read. -/
def normalised (document : Document) : Except ConfigError Document :=
  (ofDocument document).map encode

theorem get?_encode (configuration : Configuration) (part : Part) :
    configuration.encode.get? part.name = some (Settings.encode (configuration.settings part)) := by
  cases part <;> rfl

theorem stated_encode (configuration : Configuration) (part : Part) (p : Place part.kind) :
    part.stated configuration.encode p =
      some (p.write (Settings.held (configuration.settings part) p)) := by
  rw [Part.stated, get?_encode, Settings.encode_eq]
  exact Settings.lookup?_writtenEntries _ p

theorem isNormal_encode (configuration : Configuration) : IsNormal configuration.encode where
  sections := ⟨_, rfl, rfl⟩
  options part := ⟨_, (get?_encode configuration part).trans (congrArg some (Settings.encode_eq _)),
    Settings.keys_writtenEntries _⟩
  values part p := ⟨_, stated_encode configuration part p⟩

theorem IsNormal.eq_encode {document : Document} (normal : IsNormal document)
    {configuration : Configuration} (read : decode document = .ok configuration) :
    document = configuration.encode := by
  obtain ⟨entries, rfl, keys⟩ := normal.sections
  have nodup : (Entries.keys entries).Nodup := keys ▸ (by decide : ["build", "transform"].Nodup)
  have parts := (decode_table_eq_ok_iff nodup).mp read
  have section_eq : ∀ part : Part,
      Entries.lookup? part.name entries = some (Settings.encode (configuration.settings part)) := by
    intro part
    obtain ⟨inner, found, keys⟩ := normal.options part
    have nodup : (Entries.keys inner).Nodup := keys ▸ nodup_namesInOrder part.kind
    have places := parts part
    rw [show Entries.lookup? part.name entries = _ from found, Part.readAt,
      Settings.decode_table_eq_ok_iff nodup] at places
    rw [show Entries.lookup? part.name entries = _ from found, Settings.encode_eq]
    refine congrArg (some ∘ Document.table) (Entries.eq_of_keys_eq nodup
      (keys.trans (Settings.keys_writtenEntries _).symm) fun key mem => ?_)
    obtain ⟨p, rfl⟩ := Place.mem_namesInOrder.mp (keys ▸ mem)
    obtain ⟨x, value⟩ := normal.values part p
    rw [Part.stated, found] at value
    have place := places p
    rw [show Entries.lookup? p.name inner = _ from value, Place.readAt, Place.read_write,
      Except.ok.injEq] at place
    rw [show Entries.lookup? p.name inner = _ from value, place]
    exact (Settings.lookup?_writtenEntries _ p).symm
  refine congrArg Document.table (Entries.eq_of_keys_eq nodup keys fun key mem => ?_)
  rw [keys] at mem
  obtain rfl | rfl : key = Part.name .build ∨ key = Part.name .transform := by
    simpa [Part.name] using mem
  · exact section_eq .build
  · exact section_eq .transform

/-- A written configuration is read back, and of whatever is read as a configuration that is the
only normal form. -/
theorem round_trip (configuration : Configuration) :
    ofDocument configuration.encode = .ok configuration ∧ IsNormal configuration.encode ∧
    ∀ document, ofDocument document = .ok configuration →
      normalised document = .ok configuration.encode ∧
      normalised configuration.encode = .ok configuration.encode ∧
      (IsNormal document → document = configuration.encode) := by
  have back : ofDocument configuration.encode = .ok configuration :=
    ofDocument_eq_ok_iff.mpr (decode_encode configuration)
  refine ⟨back, isNormal_encode configuration, fun document read => ⟨?_, ?_, fun normal => ?_⟩⟩
  · rw [normalised, read, Except.map]
  · rw [normalised, back, Except.map]
  · exact normal.eq_encode (ofDocument_eq_ok_iff.mp read)

end Configuration

end BundleHost
