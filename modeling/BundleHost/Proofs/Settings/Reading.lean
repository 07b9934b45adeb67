import BundleHost.Proofs.Decoder
import BundleHost.Proofs.Entries
import BundleHost.Proofs.Settings.Place

/-!
# Reading settings place by place

Settings are read from the entries of a table in two passes, each entry by entry: first the places
of the kind, then the shared ones. As long as no key is repeated this comes to reading every place
from the entry that has its name, so that neither the order of the entries nor the passes count.

## Main statements

* `FillsPlaces.foldlM_eq_ok_iff` — filling places one after the other, and what they hold then.
* `decode_table_eq_ok_iff`, `exists_decode_iff` — what is read from a table, and when.
-/

namespace BundleHost

open SettingsKind OptionFamily Settings

variable {kind : SettingsKind}

/-! ## Filling places -/

section Filling

variable {δ ε : Type} {mine : Place kind → Bool} {read : (p : Place kind) → δ → Except ε p.Held}
  {step : kind.Settings → String → δ → Except ε kind.Settings}

/-- A step with the name of a place makes that place hold what is read. -/
def FillsPlaces (mine : Place kind → Bool) (read : (p : Place kind) → δ → Except ε p.Held)
    (step : kind.Settings → String → δ → Except ε kind.Settings) : Prop :=
  ∀ p, mine p = true → ∀ settings given,
    step settings p.name given = (read p given).map (put settings p)

/-- A place holds what is read for it, or what it held before if nothing is given. -/
def HeldAfter (read : (p : Place kind) → δ → Except ε p.Held) (before after : kind.Settings)
    (p : Place kind) : Option δ → Prop
  | some given => read p given = .ok (held after p)
  | none => held after p = held before p

/-- Once the steps of entries were taken, every place holds what its entry says. Entries that name
no place have to be skipped. -/
theorem FillsPlaces.foldlM_eq_ok_iff (fills : FillsPlaces mine read step)
    {entries : List (String × δ)} (nodup : (Entries.keys entries).Nodup)
    (skips : ∀ entry ∈ entries, (∀ p, mine p = true → p.name ≠ entry.1) →
      ∀ settings, step settings entry.1 entry.2 = .ok settings)
    {before after : kind.Settings} :
    entries.foldlM (fun settings entry => step settings entry.1 entry.2) before = .ok after ↔
      ∀ p, HeldAfter read before after p
        (if mine p then Entries.lookup? p.name entries else none) := by
  induction entries generalizing before with
  | nil =>
    simp only [List.foldlM_nil, Entries.lookup?_nil, ite_self, HeldAfter]
    constructor
    · intro same p
      obtain rfl : before = after := Except.ok.inj same
      rfl
    · intro same
      exact congrArg Except.ok (ext_held same).symm
  | cons entry rest ih =>
    obtain ⟨key, given⟩ := entry
    obtain ⟨fresh, nodup⟩ := List.nodup_cons.mp nodup
    have ih := @ih nodup fun entry mem => skips entry (List.mem_cons_of_mem _ mem)
    rw [List.foldlM_cons]
    by_cases named : ∃ p : Place kind, mine p = true ∧ p.name = key
    · obtain ⟨p, own, rfl⟩ := named
      have absent : Entries.lookup? p.name rest = none := Entries.lookup?_eq_none_iff.mpr fresh
      -- Every other place has another name, so that its entry is among the rest.
      have others : ∀ q, q ≠ p →
          Entries.lookup? q.name ((p.name, given) :: rest) = Entries.lookup? q.name rest :=
        fun q other => Entries.lookup?_cons_of_ne
          (fun same => other (Place.name_injective same.symm)) given rest
      rw [fills p own]
      cases value : read p given with
      | error fault =>
        constructor
        · intro done
          cases done
        · intro holds
          have here := holds p
          rw [if_pos own, Entries.lookup?_cons_self, HeldAfter, value] at here
          cases here
      | ok new =>
        change List.foldlM _ (put before p new) rest = _ ↔ _
        rw [ih]
        refine forall_congr' fun q => ?_
        by_cases same : q = p
        · subst same
          rw [if_pos own, if_pos own, absent, Entries.lookup?_cons_self, HeldAfter, HeldAfter,
            value, held_put_self, Except.ok.injEq, eq_comm]
        · rw [others q same]
          cases (if mine q then Entries.lookup? q.name rest else none) with
          | none => rw [HeldAfter, HeldAfter, held_put_of_ne before same]
          | some _ => exact Iff.rfl
    · have unnamed : ∀ p, mine p = true → p.name ≠ key := fun p own eq => named ⟨p, own, eq⟩
      have skip : step before key given = .ok before :=
        skips (key, given) List.mem_cons_self unnamed before
      rw [skip]
      change List.foldlM _ before rest = _ ↔ _
      rw [ih]
      refine forall_congr' fun p => ?_
      by_cases own : mine p = true
      · rw [if_pos own, if_pos own, Entries.lookup?_cons_of_ne (unnamed p own).symm]
      · rw [if_neg own, if_neg own]

end Filling

/-! ## Documents of places -/

namespace Place

/-- Reads what the document of a place says. Null leaves an option unset, and for the places of a
kind a single character counts as a text. -/
def read : {kind : SettingsKind} → (p : Place kind) → Decoder p.Held
  | _, .scalar (.own o) => fun document =>
    Decoder.optional (OptionFamily.type o).decode document.charAsText
  | _, .scalar (.shared o) => Decoder.optional (OptionFamily.type o).decode
  | _, .collection .pureNames => Decoder.list Decoder.text
  | _, .collection .dropLabels => Decoder.list Decoder.text
  | _, .collection .engines => Decoder.list EngineVersion.decode
  | _, .collection .define => Decoder.map Decoder.text
  | _, .collection .logOverride => Decoder.map Enumeration.decode
  | _, .collection .supported => Decoder.map Decoder.bool
  | .build, .collection .entryPoints => BuildSettings.decodeTexts
  | .build, .collection .external => BuildSettings.decodeTexts
  | .build, .collection .inject => BuildSettings.decodeTexts

/-- The document that is written for a place. -/
def write : {kind : SettingsKind} → (p : Place kind) → p.Held → Document
  | _, .scalar o, value => Document.ofOption (OptionFamily.type o).encode value
  | _, .collection .pureNames, list => .texts list
  | _, .collection .dropLabels, list => .texts list
  | _, .collection .engines, list => .list (list.map EngineVersion.encode)
  | _, .collection .define, map => .table (map.entries.map fun (key, text) => (key, .text text))
  | _, .collection .logOverride, map =>
    .table (map.entries.map fun (key, level) => (key, Enumeration.encode level))
  | _, .collection .supported, map =>
    .table (map.entries.map fun (key, enabled) => (key, .bool enabled))
  | .build, .collection .entryPoints, list => .texts list
  | .build, .collection .external, list => .texts list
  | .build, .collection .inject, list => .texts list

end Place

/-! ## The two passes -/

namespace Settings

def decode : {kind : SettingsKind} → Decoder kind.Settings
  | .build => BuildSettings.decode
  | .transform => ScopedSettings.decode
  | .shared => SharedSettings.decode

def encode : {kind : SettingsKind} → kind.Settings → Document
  | .build => BuildSettings.encode
  | .transform => ScopedSettings.encode
  | .shared => SharedSettings.encode

/-- Reads an entry in the first pass. -/
def readOwn : {kind : SettingsKind} → kind.Settings → String → Document →
    Except DecodeError kind.Settings
  | .build => BuildSettings.readOwnEntry
  | .transform => ScopedSettings.readOwnEntry
  | .shared => fun settings _ _ => .ok settings

/-- Reads an entry in the second pass. -/
def readShared (settings : kind.Settings) (key : String) (document : Document) :
    Except DecodeError kind.Settings :=
  ((sharedPart settings).readEntry key document).map fun shared =>
    mapShared (fun _ => shared) settings

/-- A recursion that takes a step for every entry is a fold. -/
theorem foldlM_of_steps {σ : Type} {step : σ → String → Document → Except DecodeError σ}
    (run : σ → List (String × Document) → Except DecodeError σ)
    (done : ∀ s, run s [] = .ok s)
    (next : ∀ s entry rest, run s (entry :: rest) = step s entry.1 entry.2 >>= (run · rest))
    (entries : List (String × Document)) (s : σ) :
    entries.foldlM (fun s entry => step s entry.1 entry.2) s = run s entries := by
  induction entries generalizing s with
  | nil => exact (done s).symm
  | cons entry rest ih =>
    rw [List.foldlM_cons, next]
    exact congrArg _ (funext ih)

theorem foldlM_readShared (entries : List (String × Document)) (settings : kind.Settings) :
    entries.foldlM (fun settings entry => readShared settings entry.1 entry.2) settings =
      ((sharedPart settings).readEntries entries).map fun shared =>
        mapShared (fun _ => shared) settings := by
  refine foldlM_of_steps (fun (settings : kind.Settings) entries =>
    ((sharedPart settings).readEntries entries).map fun shared =>
      mapShared (fun _ => shared) settings) (fun settings => ?_) (fun settings entry rest => ?_)
    entries settings
  · cases kind <;> rfl
  · rw [readShared, SharedSettings.readEntries]
    cases (sharedPart settings).readEntry entry.1 entry.2 with
    | error _ => rfl
    | ok shared =>
      change (shared.readEntries rest).map _ =
        ((sharedPart (mapShared _ settings)).readEntries rest).map _
      simp only [sharedPart_mapShared, mapShared_mapShared, Function.comp_def]

theorem foldlM_readOwnEntry (entries : List (String × Document)) (settings : TransformSettings) :
    entries.foldlM (fun settings entry => settings.readOwnEntry entry.1 entry.2) settings =
      settings.readOwnEntries entries :=
  foldlM_of_steps ScopedSettings.readOwnEntries (fun _ => rfl) (fun _ _ _ => rfl) _ _

theorem foldlM_readOwnEntry_build (entries : List (String × Document)) (settings : BuildSettings) :
    entries.foldlM (fun settings entry => settings.readOwnEntry entry.1 entry.2) settings =
      settings.readOwnEntries entries :=
  foldlM_of_steps BuildSettings.readOwnEntries (fun _ => rfl) (fun _ _ _ => rfl) _ _

theorem decode_table (entries : List (String × Document)) :
    (decode (.table entries) : Except DecodeError kind.Settings) = (do
      let settings ← entries.foldlM (fun settings entry => readOwn settings entry.1 entry.2) empty
      entries.foldlM (fun settings entry => readShared settings entry.1 entry.2) settings) := by
  simp only [foldlM_readShared]
  cases kind with
  | build =>
    simp only [readOwn, foldlM_readOwnEntry_build]
    change (BuildSettings.readOwnEntries {} entries >>= _) = _
    rfl
  | transform =>
    simp only [readOwn, foldlM_readOwnEntry]
    rfl
  | shared =>
    have skipped : entries.foldlM (fun (settings : SharedSettings) _ =>
        (.ok settings : Except DecodeError SharedSettings)) {} = .ok {} := by
      induction entries with
      | nil => rfl
      | cons _ _ ih => exact ih
    change _ = entries.foldlM (fun (settings : SharedSettings) _ =>
      (.ok settings : Except DecodeError SharedSettings)) {} >>= _
    rw [skipped]
    change SharedSettings.readEntries {} entries = (SharedSettings.readEntries {} entries).map _
    cases SharedSettings.readEntries {} entries <;> rfl

end Settings

theorem Slots.readNamed?_name {ι : Type} [DecidableEq ι] [OptionFamily ι] (slots : Slots ι) (o : ι)
    (document : Document) :
    slots.readNamed? (OptionFamily.name o) document =
      some ((Decoder.optional (OptionFamily.type o).decode document).map (slots.update o)) := by
  rw [readNamed?, ofName?_name, Option.map_some]
  cases Decoder.optional (OptionFamily.type o).decode document <;> rfl

theorem Slots.readNamed?_of_ne {ι : Type} [DecidableEq ι] [OptionFamily ι] (slots : Slots ι)
    {key : String} (unnamed : ∀ o : ι, OptionFamily.name o ≠ key) (document : Document) :
    slots.readNamed? key document = none := by
  have absent : (ofName? key : Option ι) = none :=
    Option.eq_none_iff_forall_ne_some.mpr fun o found => unnamed o (ofName?_eq_some_iff.mp found)
  rw [readNamed?, absent]
  rfl

theorem readOwnEntry_own (settings : BuildSettings) {key : String}
    (scalar : key ∉ (Collection.allOwn .build).map Collection.name) (document : Document) :
    settings.readOwnEntry key document =
      (settings.toScopedSettings.readOwnEntry key document).map fun layers =>
        { settings with toScopedSettings := layers } := by
  rw [BuildSettings.readOwnEntry]
  · cases settings.toScopedSettings.readOwnEntry key document <;> rfl
  all_goals
    rintro rfl
    exact scalar (by decide)

theorem readOwnEntry_name {ι : Type} [DecidableEq ι] [OptionFamily ι] (settings : ScopedSettings ι)
    (o : ι) (document : Document) :
    settings.readOwnEntry (OptionFamily.name o) document =
      (Decoder.optional (OptionFamily.type o).decode document.charAsText).map fun value =>
        { settings with own := settings.own.update o value } := by
  rw [ScopedSettings.readOwnEntry, Slots.readNamed?_name]
  cases Decoder.optional (OptionFamily.type o).decode document.charAsText <;> rfl

theorem fillsPlaces_readOwn : FillsPlaces (Place.isOwn : Place kind → Bool) Place.read readOwn := by
  intro p own settings document
  match kind, p with
  | .build, .scalar (.own o) =>
    have scalar : OptionFamily.name o ∉ (Collection.allOwn .build).map Collection.name := by
      intro mem
      obtain ⟨c, _, same⟩ := List.mem_map.mp mem
      have places : Place.collection c = .scalar (.own o) := Place.name_injective same
      cases places
    change BuildSettings.readOwnEntry settings (OptionFamily.name o) document = _
    rw [readOwnEntry_own settings scalar, readOwnEntry_name]
    change _ = (Decoder.optional (OptionFamily.type o).decode document.charAsText).map _
    cases Decoder.optional (OptionFamily.type o).decode document.charAsText <;> rfl
  | .transform, .scalar (.own o) => exact readOwnEntry_name settings o document
  | .build, .collection .entryPoints => exact Decoder.bind_ok_eq_map _ _
  | .build, .collection .external => exact Decoder.bind_ok_eq_map _ _
  | .build, .collection .inject => exact Decoder.bind_ok_eq_map _ _

/-- Entries that name no place of the kind are skipped in the first pass. -/
theorem readOwn_of_unnamed {key : String}
    (unnamed : ∀ p : Place kind, p.isOwn = true → p.name ≠ key) (settings : kind.Settings)
    (document : Document) : readOwn settings key document = .ok settings := by
  cases kind with
  | build =>
    have scalar : key ∉ (Collection.allOwn .build).map Collection.name := by
      intro mem
      obtain ⟨c, listed, same⟩ := List.mem_map.mp mem
      refine unnamed (.collection c) ?_ same
      simp only [Collection.allOwn, List.mem_cons, List.not_mem_nil, or_false] at listed
      obtain rfl | rfl | rfl := listed <;> rfl
    change BuildSettings.readOwnEntry settings key document = _
    rw [readOwnEntry_own settings scalar, ScopedSettings.readOwnEntry,
      Slots.readNamed?_of_ne _ fun o => unnamed (.scalar (.own o)) rfl]
    rfl
  | transform =>
    change ScopedSettings.readOwnEntry settings key document = _
    rw [ScopedSettings.readOwnEntry,
      Slots.readNamed?_of_ne _ fun o => unnamed (.scalar (.own o)) rfl]
  | shared => rfl

theorem readEntry_name (settings : SharedSettings) (o : SharedOption) (document : Document) :
    settings.readEntry (OptionFamily.name o) document =
      (Decoder.optional (OptionFamily.type o).decode document).map fun value =>
        { settings with scalars := settings.scalars.update o value } := by
  unfold SharedSettings.readEntry
  rw [Slots.readNamed?_name]
  cases Decoder.optional (OptionFamily.type o).decode document <;> rfl

/-- The entry of a list or map is not taken for that of a scalar option. -/
theorem readNamed?_collection (slots : Slots SharedOption) (c : kind.Collection)
    (document : Document) : slots.readNamed? c.name document = none := by
  refine Slots.readNamed?_of_ne _ (fun o same => ?_) document
  have places : (.scalar (.shared o) : Place kind) = .collection c := Place.name_injective same
  cases places

theorem fillsPlaces_readShared :
    FillsPlaces (fun p : Place kind => !p.isOwn) Place.read readShared := by
  intro p shared settings document
  match p with
  | .scalar (.own o) => cases shared
  | .scalar (.shared o) =>
    change ((sharedPart settings).readEntry (OptionFamily.name o) document).map _ =
      (Decoder.optional (OptionFamily.type o).decode document).map _
    rw [readEntry_name]
    cases Decoder.optional (OptionFamily.type o).decode document with
    | error _ => rfl
    | ok value => cases kind <;> rfl
  | .collection c =>
    rw [readShared]
    unfold SharedSettings.readEntry
    simp only [Place.name]
    rw [readNamed?_collection]
    cases c with
    | entryPoints => cases shared
    | external => cases shared
    | inject => cases shared
    | _ =>
      simp only [Collection.name, Place.read, Decoder.bind_ok_eq_map, Decoder.map_map]
      cases kind <;> rfl

/-- Entries that name no shared place are skipped in the second pass. -/
theorem readShared_of_unnamed {key : String}
    (unnamed : ∀ p : Place kind, (!p.isOwn) = true → p.name ≠ key) (settings : kind.Settings)
    (document : Document) : readShared settings key document = .ok settings := by
  have scalar : (sharedPart settings).scalars.readNamed? key document = none :=
    Slots.readNamed?_of_ne _ (fun o => unnamed (.scalar (.shared o)) rfl) document
  have skipped : (sharedPart settings).readEntry key document = .ok (sharedPart settings) := by
    unfold SharedSettings.readEntry
    rw [scalar]
    dsimp only
    split
    · exact absurd rfl (unnamed (.collection .pureNames) rfl)
    · exact absurd rfl (unnamed (.collection .dropLabels) rfl)
    · exact absurd rfl (unnamed (.collection .engines) rfl)
    · exact absurd rfl (unnamed (.collection .define) rfl)
    · exact absurd rfl (unnamed (.collection .logOverride) rfl)
    · exact absurd rfl (unnamed (.collection .supported) rfl)
    · rfl
  rw [readShared, skipped]
  cases kind <;> rfl

/-! ## Tables -/

/-- Reads a place from a document, if there is one. -/
def Place.readAt (p : Place kind) : Option Document → Except DecodeError p.Held
  | some document => p.read document
  | none => .ok (held empty p)

theorem heldAfter_empty {settings : kind.Settings} {p : Place kind} {found : Option Document} :
    HeldAfter Place.read empty settings p found ↔ p.readAt found = .ok (held settings p) := by
  cases found with
  | none => rw [HeldAfter, Place.readAt, Except.ok.injEq, eq_comm]
  | some _ => exact Iff.rfl

theorem held_mapShared_blank (settings : kind.Settings) (p : Place kind) :
    held (mapShared (fun _ => {}) settings) p =
      if p.isOwn then held settings p else held empty p := by
  cases kind <;> rcases p with (_ | _) | (_ | _) <;> rfl

/-- What is read from a table: every place from the entry of its name. -/
theorem Settings.decode_table_eq_ok_iff {entries : List (String × Document)}
    (nodup : (Entries.keys entries).Nodup) {settings : kind.Settings} :
    decode (.table entries) = .ok settings ↔
      ∀ p : Place kind, p.readAt (Entries.lookup? p.name entries) = .ok (held settings p) := by
  have first := @FillsPlaces.foldlM_eq_ok_iff kind _ _ _ _ _ fillsPlaces_readOwn entries nodup
    (fun entry _ unnamed settings => readOwn_of_unnamed unnamed settings entry.2)
  have second := @FillsPlaces.foldlM_eq_ok_iff kind _ _ _ _ _ fillsPlaces_readShared entries nodup
    (fun entry _ unnamed settings => readShared_of_unnamed unnamed settings entry.2)
  rw [decode_table, Decoder.bind_eq_ok_iff]
  simp only [first, second, ← heldAfter_empty]
  constructor
  · rintro ⟨between, own, shared⟩ p
    have own := own p
    have shared := shared p
    cases layer : p.isOwn <;> cases found : Entries.lookup? p.name entries <;>
      simp_all [HeldAfter]
  · intro all
    -- Between the passes the shared places are still as in the beginning.
    refine ⟨mapShared (fun _ => {}) settings, fun p => ?_, fun p => ?_⟩
    · have here := all p
      cases layer : p.isOwn <;> cases found : Entries.lookup? p.name entries <;>
        simp_all [HeldAfter, held_mapShared_blank]
    · have here := all p
      cases layer : p.isOwn <;> cases found : Entries.lookup? p.name entries <;>
        simp_all [HeldAfter, held_mapShared_blank]

/-- A table is read if every place can be read. -/
theorem Settings.exists_decode_iff {entries : List (String × Document)}
    (nodup : (Entries.keys entries).Nodup) :
    (∃ settings : kind.Settings, decode (.table entries) = .ok settings) ↔
      ∀ p : Place kind, ∃ x, p.readAt (Entries.lookup? p.name entries) = .ok x := by
  simp only [Settings.decode_table_eq_ok_iff nodup]
  constructor
  · rintro ⟨settings, reads⟩ p
    exact ⟨_, reads p⟩
  · intro reads
    choose f reads using reads
    obtain ⟨settings, holds⟩ := exists_held f
    exact ⟨settings, fun p => holds p ▸ reads p⟩

theorem Settings.decode_of_not_table {document : Document}
    (other : ∀ entries, document ≠ .table entries) (settings : kind.Settings) :
    decode document ≠ .ok settings := by
  cases document with
  | table entries => exact absurd rfl (other entries)
  | _ => cases kind <;> exact nofun

end BundleHost
