import BundleHost.Proofs.Decoder.Steady
import BundleHost.Settings.Coding

/-!
# Reading engines

An engine with its version is read from a table or from a list of the two. Keys of the table that
name neither do not count, nor does their order.

## Main statements

* `EngineVersion.decode_table_eq_ok_iff`, `EngineVersion.decode_list_eq_ok_iff` — what is read.
* `EngineVersion.steady` — what does not count.
-/

namespace BundleHost

namespace EngineVersion

def nameField : Decoder.Field :=
  Decoder.field "name" .required (Enumeration.decode : Decoder EngineName)

def versionField : Decoder.Field := Decoder.field "version" .required Decoder.text

def fields : List Decoder.Field := [nameField, versionField]

theorem decode_eq_ok_iff {document : Document} {engine : EngineVersion} :
    decode document = .ok engine ↔ ∃ found, Decoder.record fields document = .ok found ∧
      Decoder.get found "name" Enumeration.decode Enumeration.default = .ok engine.name ∧
      Decoder.get found "version" Decoder.text "" = .ok engine.version := by
  simp only [decode, Decoder.bind_eq_ok_iff, Except.ok.injEq]
  refine exists_congr fun found => and_congr_right fun _ => ?_
  constructor
  · rintro ⟨name, readName, version, readVersion, rfl⟩
    exact ⟨readName, readVersion⟩
  · rintro ⟨readName, readVersion⟩
    exact ⟨_, readName, _, readVersion, rfl⟩

theorem decode_table_eq_ok_iff {entries : List (String × Document)}
    (nodup : (Entries.keys entries).Nodup) {engine : EngineVersion} :
    decode (.table entries) = .ok engine ↔
      (∃ name, Entries.lookup? "name" entries = some (.text name) ∧
        Enumeration.ofName? name = some engine.name) ∧
      Entries.lookup? "version" entries = some (.text engine.version) := by
  have names : (fields.map (·.name)).Nodup := by decide
  have nameFound : Entries.lookup? "name" (Decoder.fieldsOf fields entries) =
      Entries.lookup? "name" entries :=
    @Decoder.lookup?_fieldsOf fields entries nodup nameField (by simp [fields])
  have versionFound : Entries.lookup? "version" (Decoder.fieldsOf fields entries) =
      Entries.lookup? "version" entries :=
    @Decoder.lookup?_fieldsOf fields entries nodup versionField (by simp [fields])
  rw [decode_eq_ok_iff]
  simp only [Decoder.record_table_eq_ok_iff names nodup]
  constructor
  · rintro ⟨_, ⟨accepts, rfl⟩, readName, readVersion⟩
    have named : nameField.Accepts (Entries.lookup? "name" entries) :=
      accepts nameField (by simp [fields])
    have versioned : versionField.Accepts (Entries.lookup? "version" entries) :=
      accepts versionField (by simp [fields])
    rw [Decoder.get, nameFound] at readName
    rw [Decoder.get, versionFound] at readVersion
    constructor
    · cases name : Entries.lookup? "name" entries with
      | none =>
        rw [name] at named
        exact absurd rfl named
      | some document =>
        rw [name] at readName
        obtain ⟨text, rfl, found⟩ := Decoder.enumeration_eq_ok_iff.mp readName
        exact ⟨text, rfl, found⟩
    · cases version : Entries.lookup? "version" entries with
      | none =>
        rw [version] at versioned
        exact absurd rfl versioned
      | some document =>
        rw [version] at readVersion
        rw [Decoder.text_eq_ok_iff.mp readVersion]
  · rintro ⟨⟨name, named, found⟩, versioned⟩
    have readName := Decoder.enumeration_eq_ok_iff.mpr ⟨name, rfl, found⟩
    refine ⟨_, ⟨?_, rfl⟩, ?_, ?_⟩
    · simp only [fields, List.forall_mem_cons]
      refine ⟨?_, ?_, nofun⟩
      · change nameField.Accepts (Entries.lookup? "name" entries)
        rw [named]
        exact (Decoder.fits_field "name" .required readName).2
      · change versionField.Accepts (Entries.lookup? "version" entries)
        rw [versioned]
        exact (Decoder.fits_field "version" .required (Decoder.inverts_text engine.version)).2
    · rw [Decoder.get, nameFound, named]
      exact readName
    · rw [Decoder.get, versionFound, versioned]
      exact Decoder.inverts_text engine.version

theorem decode_list_eq_ok_iff {items : List Document} {engine : EngineVersion} :
    decode (.list items) = .ok engine ↔
      ∃ name, items = [.text name, .text engine.version] ∧
        Enumeration.ofName? name = some engine.name := by
  have required : ∀ field ∈ fields, field.presence = .required := by
    simp only [fields, List.forall_mem_cons]
    exact ⟨rfl, rfl, List.forall_mem_nil _⟩
  simp only [decode_eq_ok_iff, Decoder.record_list_eq_ok_iff required]
  constructor
  · rintro ⟨_, ⟨fits, rfl⟩, readName, readVersion⟩
    match fits with
    | .cons (b := (_, first)) ⟨rfl, _⟩ (.cons (b := (_, second)) ⟨rfl, _⟩ .nil) =>
      obtain ⟨name, rfl, found⟩ := Decoder.enumeration_eq_ok_iff.mp readName
      obtain rfl := Decoder.text_eq_ok_iff.mp readVersion
      exact ⟨name, rfl, found⟩
  · rintro ⟨name, rfl, found⟩
    have readName := Decoder.enumeration_eq_ok_iff.mpr ⟨name, rfl, found⟩
    have fits : List.Forall₂ Decoder.Fits fields
        [("name", .text name), ("version", .text engine.version)] :=
      .cons (Decoder.fits_field _ _ readName) <|
      .cons (Decoder.fits_field _ _ (Decoder.inverts_text engine.version)) .nil
    exact ⟨_, ⟨fits, rfl⟩, readName, rfl⟩

theorem decode_eq_ok_cases {document : Document} {engine : EngineVersion}
    (read : decode document = .ok engine) :
    (∃ items, document = .list items) ∨ ∃ entries, document = .table entries := by
  cases document with
  | list items => exact .inl ⟨items, rfl⟩
  | table entries => exact .inr ⟨entries, rfl⟩
  | _ => cases read

/-- The order of keys does not count. -/
theorem decode_sorted_eq_ok_iff {document : Document} (tree : document.IsTree)
    {engine : EngineVersion} :
    decode document.sorted = .ok engine ↔ decode document = .ok engine := by
  cases document with
  | table entries =>
    have nodup := tree.nodup_keys
    have text : ∀ (key s : String),
        Entries.lookup? key (Document.sortedTable entries) = some (.text s) ↔
          Entries.lookup? key entries = some (.text s) := by
      intro key s
      rw [Document.lookup?_sortedTable nodup, Option.map_eq_some_iff]
      simp [Document.sorted_eq_text_iff]
    rw [Document.sorted_table nodup, decode_table_eq_ok_iff nodup,
      decode_table_eq_ok_iff (Document.nodup_keys_sortedTable nodup)]
    simp only [text]
  | list items =>
    have same : ∀ name version : String,
        items.map Document.sorted = [.text name, .text version] ↔
          items = [.text name, .text version] := by
      intro name version
      match items with
      | [] | [_] | _ :: _ :: _ :: _ => simp
      | [first, second] => simp [Document.sorted_eq_text_iff]
    rw [Document.sorted_list, decode_list_eq_ok_iff, decode_list_eq_ok_iff]
    simp only [same]
  | _ => simp only [Document.sorted]

/-- Nulls that are not read may be left out. -/
theorem decode_withoutNulls {document : Document} (tree : document.IsTree) {engine : EngineVersion}
    (read : decode document = .ok engine) : decode document.withoutNulls = .ok engine := by
  obtain ⟨items, rfl⟩ | ⟨entries, rfl⟩ := decode_eq_ok_cases read
  · obtain ⟨name, rfl, found⟩ := decode_list_eq_ok_iff.mp read
    simpa [Document.withoutNulls, Document.itemsWithoutNulls, Document.isNull] using read
  · have nodup := tree.nodup_keys
    obtain ⟨⟨name, named, found⟩, versioned⟩ := (decode_table_eq_ok_iff nodup).mp read
    rw [Document.withoutNulls,
      decode_table_eq_ok_iff (Document.nodup_keys_entriesWithoutNulls nodup)]
    refine ⟨⟨name, ?_, found⟩, ?_⟩
    · rw [Document.lookup?_entriesWithoutNulls nodup, named]
      simp [Document.nonNull, Document.isNull, Document.withoutNulls]
    · rw [Document.lookup?_entriesWithoutNulls nodup, versioned]
      simp [Document.nonNull, Document.isNull, Document.withoutNulls]

theorem steady : Decoder.Steady decode where
  sorted tree _ := decode_sorted_eq_ok_iff tree
  withoutNulls tree _ := decode_withoutNulls tree

end EngineVersion

end BundleHost
