import BundleHost.Proofs.Configuration.Agreement
import BundleHost.Proofs.Configuration.Layering
import BundleHost.Proofs.Environment.Name
import BundleHost.Proofs.Environment.Value

/-!
# Options given by variables

A variable that gives a text sets its option to that text. So whatever text an option can be set to
by name can be given by a variable: in double quotes, or bare where a bare text gives itself. That
is so for most texts, and for the names of members, but not for the words for truth values.

## Main statements

* `load_variableOf_iff` — a single variable is read like a section of one entry.
* `load_variableOf_of_text` — a variable that gives a text sets the option.
* `variable_gives_as_set` — what variables give where a text can be set.
-/

namespace BundleHost.Configuration

open SettingsKind Settings
open Environment (valueOf quoted IsBoolean IsOrdinary)

variable {part : Part}

/-- The configuration in which one part has these settings and the other none. -/
def alone : (part : Part) → part.kind.Settings → Configuration
  | .build, settings => { build := settings }
  | .transform, settings => { transform := settings }

theorem settings_alone (part : Part) (settings : part.kind.Settings) :
    (alone part settings).settings part = settings := by
  cases part <;> rfl

theorem settings_alone_of_ne (settings : part.kind.Settings) {other : Part} (ne : other ≠ part) :
    (alone part settings).settings other = empty := by
  cases part <;> cases other <;> first | rfl | exact absurd rfl ne

/-- The variable that gives an option. -/
def variableOf (part : Part) (o : part.kind.ScalarOption) : String :=
  "KEEL_" ++ Text.upperAscii part.name ++ "__" ++ Text.upperAscii (OptionFamily.name o)

theorem keys?_variableOf (o : part.kind.ScalarOption) :
    Environment.keys? (variableOf part o) = some [part.name, OptionFamily.name o] := by
  have placed : Environment.IsOptionName part.name.toList ∧ '_' ∉ part.name.toList := by
    cases part <;> decide
  exact Environment.keys?_of_names placed.1 placed.2 (Environment.isOptionName_name o)

theorem document_variableOf (o : part.kind.ScalarOption) (text : String) :
    Environment.document [(variableOf part o, text)] =
      .table [(part.name, .table [(OptionFamily.name o, valueOf text)])] := by
  simp [Environment.document, keys?_variableOf, Environment.nest, Document.overlay_table,
    Document.overlayEntries, Entries.put]

/-- A single variable is read like a section of one entry. -/
theorem load_variableOf_iff {disk : Disk} {o : part.kind.ScalarOption} {text : String}
    {configuration : Configuration} :
    load disk [(variableOf part o, text)] none = .ok configuration ↔
      Settings.decode (.table [(OptionFamily.name o, valueOf text)]) =
        .ok (configuration.settings part) ∧
      ∀ other : Part, other ≠ part → configuration.settings other = empty := by
  have only : HasOnly part [(part.name, .table [(OptionFamily.name o, valueOf text)])]
      [(OptionFamily.name o, valueOf text)] :=
    ⟨by simp [Entries.keys], List.mem_singleton_self _, fun other ne same =>
      ne (Part.name_injective (List.mem_singleton.mp same))⟩
  have noMaps : ∀ (other : Part) (p : Place other.kind), p.isMap = true →
      other.stated (Environment.document [(variableOf part o, text)]) p = none := by
    rw [document_variableOf]
    intro other p map
    by_cases same : other = part
    · subst same
      have ne : OptionFamily.name o ≠ p.name := fun eq => by
        obtain rfl : p = .scalar o := Place.name_injective eq.symm
        cases map
      simp [Part.stated, Document.get?, Entries.lookup?, ne]
    · have ne : part.name ≠ other.name := fun eq => same (Part.name_injective eq.symm)
      simp [Part.stated, Document.get?, Entries.lookup?, ne]
  obtain ⟨tree, table⟩ := Environment.isTree_document [(variableOf part o, text)]
  rw [← only.decode_eq_ok_iff, load_none_iff, joins_nil_comm, joins_iff_decode tree table noMaps,
    document_variableOf]

/-- A variable that gives a text sets the option to this text. -/
theorem load_variableOf_of_text {disk : Disk} {o : part.kind.ScalarOption} {text given : String}
    (gives : valueOf text = .text given) {configuration : Configuration} :
    load disk [(variableOf part o, text)] none = .ok configuration ↔
      set (empty : part.kind.Settings) (OptionFamily.name o) (.text given) =
        .ok (configuration.settings part) ∧
      ∀ other : Part, other ≠ part → configuration.settings other = empty := by
  have section' : Gives part.kind [(OptionFamily.name o, .text given)]
      [(OptionFamily.name o, .text given)] := .value o (.text given) nofun .nil
  rw [load_variableOf_iff, gives, section'.decode_eq_ok_iff (List.nodup_singleton _)]
  simp [setAll]

/-- What an option of texts takes besides texts are single characters. -/
theorem eq_text_of_read {o : part.kind.ScalarOption} (texts : OptionFamily.type o = .text)
    {document : Document} {s : String} {x : OptionFamily.Value o}
    (denotes : Denotes (OptionFamily.type o) (.text s) x)
    (read : Place.read (.scalar o) document = .ok (some x)) :
    document = .text s ∨ ∃ c, document = .char c ∧ s = c.toString := by
  have decoded : ∀ {t : ScalarType} {x : t.Value} {d : Document}, t = .text →
      Denotes t (.text s) x → Decoder.optional t.decode d = .ok (some x) → d = .text s := by
    rintro _ x d rfl ⟨⟩ read
    cases d with
    | text _ => exact congrArg Document.text (Option.some.inj (Except.ok.inj read))
    | _ => cases read
  cases o with
  | shared o => exact .inl (decoded texts denotes read)
  | own o =>
    have given : document.charAsText = .text s := decoded texts denotes read
    cases document with
    | char c => exact .inr ⟨c, rfl, (Document.text.inj given).symm⟩
    | _ => exact .inl given

/-- A text that stands for a member stands for it like a name. -/
theorem isNameLike_of_denotes {t : ScalarType} {s : String} {x : t.Value} (noTexts : t ≠ .text)
    (denotes : Denotes t (.text s) x) : Environment.IsNameLike s.toList := by
  cases denotes with
  | text => exact absurd rfl noTexts
  | name called => exact Environment.isNameLike_of_goesBy called

/-- Texts with one key stand for one member. -/
theorem denotes_of_key_eq {t : ScalarType} {s name : String} {x : t.Value} (noTexts : t ≠ .text)
    (denotes : Denotes t (.text s) x) (key : Enumeration.key name = Enumeration.key s) :
    Denotes t (.text name) x := by
  cases denotes with
  | text => exact absurd rfl noTexts
  | name called =>
    refine .name ?_
    change Enumeration.GoesBy _ (Enumeration.key name)
    rw [key]
    exact called

theorem set_eq_ok_iff {o : part.kind.ScalarOption} {value : OptionValue}
    {before after : part.kind.Settings} :
    set before (OptionFamily.name o) value = .ok after ↔
      ∃ x, Denotes (OptionFamily.type o) value x ∧ assign before o x = after := by
  simp only [set_name, Decoder.map_eq_ok_iff, reading_eq_ok_iff]

/-- Only what gives itself sets an option of texts to itself. -/
theorem valueOf_of_load {disk : Disk} {o : part.kind.ScalarOption} {s : String}
    {x : OptionFamily.Value o} (texts : OptionFamily.type o = .text)
    (denotes : Denotes (OptionFamily.type o) (.text s) x)
    (loaded : load disk [(variableOf part o, s)] none = .ok (alone part (assign empty o x))) :
    valueOf s = .text s := by
  obtain ⟨read, -⟩ := load_variableOf_iff.mp loaded
  have holds : held (assign (empty : part.kind.Settings) o x) (.scalar o) = some x := by
    rw [assign_eq]
    exact explicit?_update_self _ o (some x)
  rw [settings_alone, Settings.decode_table_eq_ok_iff (by simp [Entries.keys])] at read
  have here := read (.scalar o)
  rw [holds, Place.name, Entries.lookup?_cons_self] at here
  obtain itself | ⟨c, char, rfl⟩ := eq_text_of_read texts denotes here
  · exact itself
  · exact absurd rfl (Environment.ne_toString_of_valueOf char)

/-- What a variable gives to an option that can be set to a text. -/
structure GivesAsSet (disk : Disk) (o : part.kind.ScalarOption) (s : String)
    (after : part.kind.Settings) : Prop where
  /-- In double quotes the text always comes to the same as setting the option to it. -/
  quoted : load disk [(variableOf part o, quoted s)] none = .ok (alone part after)
  /-- So it does bare if it is a text like most. -/
  ordinary : IsOrdinary s → load disk [(variableOf part o, s)] none = .ok (alone part after)
  /-- For options of texts it does just if it gives itself. -/
  text_iff : OptionFamily.type o = .text →
    (load disk [(variableOf part o, s)] none = .ok (alone part after) ↔ valueOf s = .text s)
  /-- For all other options it does, but for the words for truth values. -/
  name : OptionFamily.type o ≠ .text → ¬ IsBoolean s →
    load disk [(variableOf part o, s)] none = .ok (alone part after)

/-- What an option can be set to by name can be given by its variable. -/
theorem variable_gives_as_set (disk : Disk) {o : part.kind.ScalarOption} {s : String}
    {after : part.kind.Settings}
    (accepted : set (empty : part.kind.Settings) (OptionFamily.name o) (.text s) = .ok after) :
    GivesAsSet disk o s after := by
  have sets : ∀ {text given : String}, valueOf text = .text given →
      set (empty : part.kind.Settings) (OptionFamily.name o) (.text given) = .ok after →
      load disk [(variableOf part o, text)] none = .ok (alone part after) := by
    intro text given gives accepted
    refine (load_variableOf_of_text gives).mpr ⟨?_, fun other => settings_alone_of_ne after⟩
    rwa [settings_alone]
  obtain ⟨x, denotes, rfl⟩ := set_eq_ok_iff.mp accepted
  constructor
  case quoted => exact sets (Environment.valueOf_quoted s) accepted
  case ordinary =>
    intro ordinary
    exact sets (Environment.valueOf_of_isOrdinary ordinary) accepted
  case text_iff =>
    intro texts
    exact ⟨valueOf_of_load texts denotes, fun itself => sets itself accepted⟩
  case name =>
    intro noTexts noBoolean
    have like := isNameLike_of_denotes noTexts denotes
    obtain boolean | ⟨name, gives, key⟩ := Environment.valueOf_of_isNameLike like
    · exact absurd boolean noBoolean
    · exact sets gives (set_eq_ok_iff.mpr ⟨x, denotes_of_key_eq noTexts denotes key, rfl⟩)

/-- An alias in capitals behind a blank, bare and in quotes. -/
theorem variable_gives_as_set_alias :
    ∃ after, set (empty : SettingsKind.build.Settings) "target" (.text " ES6") = .ok after ∧
      load .empty [("KEEL_BUILD__TARGET", " ES6")] none = .ok { build := after } ∧
      load .empty [("KEEL_BUILD__TARGET", "\" ES6\"")] none = .ok { build := after } := by
  let target : SettingsKind.build.ScalarOption := .shared .target
  obtain ⟨after, accepted⟩ : ∃ after,
      set (empty : SettingsKind.build.Settings) (OptionFamily.name target) (.text " ES6") =
        .ok after := Decoder.exists_ok_iff.mpr (by decide +kernel)
  have gives := @variable_gives_as_set .build .empty target " ES6" after accepted
  have called : variableOf .build target = "KEEL_BUILD__TARGET" := by decide +kernel
  have inQuotes : quoted " ES6" = "\" ES6\"" := by decide +kernel
  have noBoolean : ¬ IsBoolean " ES6" := by
    rintro ⟨truth, before, after, eq, -⟩
    have mem : 'e' ∈ " ES6".toList := by
      rw [eq]
      cases truth <;> simp [Environment.truthWord]
    exact absurd mem (by decide)
  rw [← called, ← inQuotes]
  exact ⟨after, accepted, gives.name nofun noBoolean, gives.quoted⟩

/-- A bare number is no text, and a bare truth value no name. -/
theorem bare_values_refused :
    ((∃ after, set (empty : SettingsKind.build.Settings) "banner" (.text "123") = .ok after) ∧
      ¬ ∃ configuration,
        load .empty [("KEEL_BUILD__BANNER", "123")] none = .ok configuration) ∧
    (∃ after, set (empty : SettingsKind.build.Settings) "tree_shaking" (.text "true") = .ok after) ∧
      ¬ ∃ configuration,
        load .empty [("KEEL_BUILD__TREE_SHAKING", "true")] none = .ok configuration := by
  rw [exists_load_none_iff, exists_load_none_iff]
  simp only [Decoder.exists_ok_iff]
  decide +kernel

end BundleHost.Configuration
