import BundleHost.Proofs.Document.Tree
import BundleHost.Proofs.Enumeration
import BundleHost.Proofs.Settings.Engine
import BundleHost.Proofs.Settings.Reading

/-!
# Reading written settings

Settings are written place by place. Every place is read back from what was written for it, an
unset option from null, and so are the settings as a whole.

## Main statements

* `lookup?_writtenEntries` — what is written for a place.
* `decode_encode` — written settings are read back.
* `isTree_encode` — written settings are a tree.
-/

namespace BundleHost

open SettingsKind OptionFamily Settings

variable {kind : SettingsKind}

theorem Slots.encode_eq {ι : Type} [DecidableEq ι] [OptionFamily ι] (slots : Slots ι) :
    slots.encode = (OptionFamily.all : List ι).map fun o =>
      (OptionFamily.name o,
        Document.ofOption (OptionFamily.type o).encode (slots.explicit? o)) := by
  rw [encode]
  refine List.map_congr_left fun o _ => ?_
  rw [encodeOption]
  cases slots.explicit? o <;> rfl

/-- Settings are written place by place, in the order in which explicit options are listed. -/
theorem Settings.encode_eq (settings : kind.Settings) :
    encode settings =
      .table ((Place.all kind).map fun p => (p.name, p.write (held settings p))) := by
  simp only [Place.all, List.map_append, List.map_map]
  cases kind with
  | build =>
    change Document.table ((settings.shared.scalars.encode ++ _) ++ settings.own.encode ++ _) = _
    rw [Slots.encode_eq, Slots.encode_eq]
    rfl
  | transform =>
    change Document.table ((settings.shared.scalars.encode ++ _) ++ settings.own.encode) = _
    rw [Slots.encode_eq, Slots.encode_eq]
    simp only [Collection.allOwn, List.map_nil, List.append_nil]
    rfl
  | shared =>
    change Document.table (settings.scalars.encode ++ _) = _
    rw [Slots.encode_eq]
    simp only [Collection.allOwn, List.map_nil, List.append_nil]
    rfl

/-- The entries of written settings. -/
def Settings.writtenEntries (settings : kind.Settings) : List (String × Document) :=
  (Place.all kind).map fun p => (p.name, p.write (held settings p))

theorem Settings.keys_writtenEntries (settings : kind.Settings) :
    Entries.keys (writtenEntries settings) = namesInOrder kind := by
  rw [← Place.map_name_all, writtenEntries, Entries.keys, List.map_map]
  rfl

theorem Settings.lookup?_writtenEntries (settings : kind.Settings) (p : Place kind) :
    Entries.lookup? p.name (writtenEntries settings) = some (p.write (held settings p)) := by
  have nodup : (Entries.keys (writtenEntries settings)).Nodup :=
    keys_writtenEntries settings ▸ nodup_namesInOrder kind
  rw [Entries.lookup?_eq_some_iff nodup]
  exact List.mem_map_of_mem (f := fun p => (p.name, p.write (held settings p))) (Place.mem_all p)

/-! ## Places there and back -/

theorem ScalarType.inverts (t : ScalarType) : Decoder.Inverts t.decode t.encode := by
  cases t with
  | flag => exact fun _ => rfl
  | count =>
    intro n
    have small : n.toNat < UInt32.size := n.toNat_lt
    change (Decoder.natBelow UInt32.size (.int n.toNat) >>= fun n => .ok (UInt32.ofNat n)) = .ok n
    rw [Decoder.natBelow_int small]
    exact congrArg Except.ok (UInt32.ofNat_toNat)
  | text => exact fun _ => rfl
  | choice v => exact fun m => Enumeration.decode_encode m

theorem ScalarType.encode_ne_null (t : ScalarType) (x : t.Value) : t.encode x ≠ .null := by
  cases t <;> exact nofun

/-- No written value is a single character. -/
theorem ScalarType.charAsText_encode (t : ScalarType) (x : Option t.Value) :
    (Document.ofOption t.encode x).charAsText = Document.ofOption t.encode x := by
  cases x with
  | none => rfl
  | some x => cases t <;> rfl

theorem EngineVersion.inverts : Decoder.Inverts EngineVersion.decode EngineVersion.encode := by
  intro engine
  have nodup : (Entries.keys [("name", Enumeration.encode engine.name),
      ("version", .text engine.version)]).Nodup := (by decide : ["name", "version"].Nodup)
  rw [encode, decode_table_eq_ok_iff nodup]
  exact ⟨⟨_, rfl, Enumeration.ofName?_name engine.name⟩, rfl⟩

theorem BuildSettings.inverts_texts : Decoder.Inverts decodeTexts .texts :=
  have inverts : Decoder.Inverts (fun document => Decoder.text document.charAsText) .text :=
    fun _ => rfl
  inverts.list

/-- A place is read back from what was written for it. -/
theorem Place.read_write (p : Place kind) (x : p.Held) : p.read (p.write x) = .ok x := by
  match kind, p with
  | _, .scalar (.own o) =>
    change Decoder.optional (type o).decode (Document.ofOption (type o).encode x).charAsText = _
    rw [ScalarType.charAsText_encode]
    exact (type o).inverts.optional (type o).encode_ne_null x
  | _, .scalar (.shared o) => exact (type o).inverts.optional (type o).encode_ne_null x
  | _, .collection .pureNames => exact Decoder.inverts_text.list x
  | _, .collection .dropLabels => exact Decoder.inverts_text.list x
  | _, .collection .engines => exact EngineVersion.inverts.list x
  | _, .collection .define => exact Decoder.inverts_text.map x
  | _, .collection .logOverride =>
    have inverts : Decoder.Inverts (Enumeration.decode : Decoder LogLevel) Enumeration.encode :=
      Enumeration.decode_encode
    exact inverts.map x
  | _, .collection .supported => exact Decoder.inverts_bool.map x
  | .build, .collection .entryPoints => exact BuildSettings.inverts_texts x
  | .build, .collection .external => exact BuildSettings.inverts_texts x
  | .build, .collection .inject => exact BuildSettings.inverts_texts x

/-- Written settings are read back. -/
theorem Settings.decode_encode (settings : kind.Settings) :
    decode (encode settings) = .ok settings := by
  have nodup : (Entries.keys (writtenEntries settings)).Nodup :=
    keys_writtenEntries settings ▸ nodup_namesInOrder kind
  rw [encode_eq, ← writtenEntries, decode_table_eq_ok_iff nodup]
  intro p
  rw [lookup?_writtenEntries]
  exact p.read_write (held settings p)

/-! ## Written settings are trees -/

theorem ScalarType.isTree_encode (t : ScalarType) (x : t.Value) : (t.encode x).IsTree := by
  cases t with
  | flag => exact .bool _
  | count => exact .int _
  | text => exact .text _
  | choice v => exact .text _

theorem Document.isTree_texts (items : List String) : (Document.texts items).IsTree := by
  refine .list fun item mem => ?_
  obtain ⟨s, _, rfl⟩ := List.mem_map.mp mem
  exact .text s

theorem OrderedMap.isTree_map {α : Type} {encode : α → Document} (tree : ∀ a, (encode a).IsTree)
    (map : OrderedMap α) :
    (Document.table (map.entries.map fun (key, a) => (key, encode a))).IsTree := by
  refine .table ?_ fun entry mem => ?_
  · rw [Entries.keys_map]
    exact map.nodup_keys
  · obtain ⟨first, _, rfl⟩ := List.mem_map.mp mem
    exact tree first.2

theorem EngineVersion.isTree_encode (engine : EngineVersion) : engine.encode.IsTree := by
  refine .table (by decide : ["name", "version"].Nodup) ?_
  simp only [List.forall_mem_cons]
  exact ⟨.text _, .text _, nofun⟩

theorem Place.isTree_write (p : Place kind) (x : p.Held) : (p.write x).IsTree := by
  match kind, p with
  | _, .scalar o =>
    cases x with
    | none => exact .null
    | some x => exact (type o).isTree_encode x
  | _, .collection .pureNames => exact Document.isTree_texts x
  | _, .collection .dropLabels => exact Document.isTree_texts x
  | _, .collection .engines =>
    refine .list fun item mem => ?_
    obtain ⟨engine, _, rfl⟩ := List.mem_map.mp mem
    exact engine.isTree_encode
  | _, .collection .define => exact OrderedMap.isTree_map .text x
  | _, .collection .logOverride =>
    have tree : ∀ level : LogLevel, (Enumeration.encode level).IsTree := fun _ => .text _
    exact OrderedMap.isTree_map tree x
  | _, .collection .supported => exact OrderedMap.isTree_map .bool x
  | .build, .collection .entryPoints => exact Document.isTree_texts x
  | .build, .collection .external => exact Document.isTree_texts x
  | .build, .collection .inject => exact Document.isTree_texts x

theorem Settings.isTree_encode (settings : kind.Settings) : (encode settings).IsTree := by
  rw [encode_eq]
  refine .table ?_ fun entry mem => ?_
  · exact keys_writtenEntries settings ▸ nodup_namesInOrder kind
  · obtain ⟨p, _, rfl⟩ := List.mem_map.mp mem
    exact p.isTree_write _

end BundleHost
