import BundleHost.Proofs.Settings.Store
import BundleHost.Settings.Edit

/-!
# Settings refine a map

Seen by the names of their scalar options, settings are a map from names to values: edits write to
the map, a later write replaces an earlier one, and unsetting an option takes its value away. Where
the map has no value, the default of the kind shows.

## Main statements

* `settings_refine_map` — what settings show after any edits, and what edits leave alone.
-/

namespace BundleHost

open SettingsKind OptionFamily Settings

variable {kind : SettingsKind}

/-! ## The map -/

/-- The default of an option by name. -/
def SettingsKind.default? (kind : SettingsKind) (name : String) : Option OptionValue :=
  (kind.option? name).map fun o => (type o).toOptionValue (OptionFamily.default o)

/-- The canonical form of a value for an option by name, if the option takes the value. -/
def SettingsKind.canonical? (kind : SettingsKind) (name : String) (value : OptionValue) :
    Option OptionValue :=
  (kind.option? name).bind fun o => ((type o).ofOptionValue? value).map (type o).toOptionValue

/-- The values that were written to the options of settings, by name. -/
def Settings.written (settings : kind.Settings) (name : String) : Option OptionValue :=
  if isSet settings name = .ok true then (get settings name).toOption else none

/-- A map after writes, the last one to a name prevailing. A write without a value takes away. -/
def overwritten (map : String → Option OptionValue)
    (writes : List (String × Option OptionValue)) (name : String) : Option OptionValue :=
  ((writes.reverse.find? (·.1 = name)).map (·.2)).getD (map name)

/-- Settings show what a map holds, and the default where it holds nothing. -/
def Shows (settings : kind.Settings) (map : String → Option OptionValue) : Prop :=
  ∀ name,
    match kind.default? name with
    | some usual => get settings name = .ok ((map name).getD usual) ∧
        isSet settings name = .ok (map name).isSome
    | none => get settings name = .error (.unknownOption name) ∧
        isSet settings name = .error (.unknownOption name)

namespace Edit

/-- What an edit writes to the map. -/
def writes : Edit kind → List (String × Option OptionValue)
  | .set name value =>
    match kind.canonical? name value with
    | some canonical => [(name, some canonical)]
    | none => []
  | .unset name => if (kind.option? name).isSome then [(name, none)] else []
  | .assign o value => [(OptionFamily.name o, some ((type o).toOptionValue value))]
  | .minify | .production =>
    [("minify_whitespace", some (.bool true)), ("minify_identifiers", some (.bool true)),
     ("minify_syntax", some (.bool true))]
  | .development => [("jsx_dev", some (.bool true)), ("keep_names", some (.bool true))]
  | .add _ _ => []

/-- Why an edit fails, on whatever settings. -/
def fault? : Edit kind → Option ConfigError
  | .set name value =>
    match kind.option? name with
    | some o =>
      match (type o).ofOptionValue? value with
      | some _ => none
      | none => some (.invalidOption name value.display (type o).expected)
    | none => some (.unknownOption name)
  | .unset name =>
    match kind.option? name with
    | some _ => none
    | none => some (.unknownOption name)
  | _ => none

end Edit

/-! ## Writes -/

theorem overwritten_nil (map : String → Option OptionValue) : overwritten map [] = map := rfl

theorem overwritten_append (map : String → Option OptionValue)
    (first second : List (String × Option OptionValue)) :
    overwritten map (first ++ second) = overwritten (overwritten map first) second := by
  funext name
  simp only [overwritten, List.reverse_append, List.find?_append]
  cases second.reverse.find? (·.1 = name) <;> rfl

theorem overwritten_of_not_mem (map : String → Option OptionValue)
    {writes : List (String × Option OptionValue)} {name : String}
    (h : name ∉ writes.map (·.1)) : overwritten map writes name = map name := by
  have none : writes.reverse.find? (·.1 = name) = none := by
    rw [List.find?_eq_none]
    intro write mem same
    exact h (List.mem_map.mpr ⟨write, List.mem_reverse.mp mem, by simpa using same⟩)
  rw [overwritten, none]
  rfl

namespace Settings

theorem option?_name (o : kind.ScalarOption) : kind.option? (OptionFamily.name o) = some o :=
  ofName?_name o

theorem written_eq (settings : kind.Settings) (name : String) :
    written settings name =
      (kind.option? name).bind fun o => (explicit? settings o).map (type o).toOptionValue := by
  rw [written, isSet_eq, get_eq]
  cases kind.option? name with
  | none => rfl
  | some o => cases h : explicit? settings o <;> simp [Except.toOption, h]

/-- Settings show what was written to them. -/
theorem shows_written (settings : kind.Settings) : Shows settings (written settings) := by
  intro name
  rw [SettingsKind.default?, written_eq, isSet_eq, get_eq]
  cases kind.option? name with
  | none => exact ⟨rfl, rfl⟩
  | some o => cases h : explicit? settings o <;> simp [h]

theorem written_update (settings : kind.Settings) (o : kind.ScalarOption)
    (value : Option (Value o)) :
    written (update settings o value) =
      overwritten (written settings) [(OptionFamily.name o, value.map (type o).toOptionValue)] := by
  funext name
  by_cases called : OptionFamily.name o = name
  · subst called
    simp [written_eq, option?_name, overwritten]
  · rw [overwritten_of_not_mem _ (by simpa [eq_comm] using called), written_eq, written_eq]
    cases found : kind.option? name with
    | none => rfl
    | some p =>
      have other : p ≠ o := by
        rintro rfl
        exact called (ofName?_eq_some_iff.mp found)
      simp [explicit?_update_of_ne _ other]

end Settings

/-! ## Edits -/

namespace Edit

theorem apply_set (settings : kind.Settings) (name : String) (value : OptionValue) :
    (Edit.set name value).apply settings =
      match kind.option? name with
      | some o => (reading o value).map fun x => update settings o (some x)
      | none => .error (.unknownOption name) :=
  set_eq settings name value

theorem apply_unset (settings : kind.Settings) (name : String) :
    (Edit.unset name).apply settings =
      match kind.option? name with
      | some o => .ok (update settings o none)
      | none => .error (.unknownOption name) :=
  unset_eq settings name

/-- An edit fails for its own sake, not for the sake of the settings. -/
theorem apply_eq_error_iff (edit : Edit kind) (settings : kind.Settings) (error : ConfigError) :
    edit.apply settings = .error error ↔ edit.fault? = some error := by
  cases edit with
  | set name value =>
    rw [apply_set, fault?]
    cases found : kind.option? name with
    | none => simp
    | some o =>
      have called : OptionFamily.name o = name := ofName?_eq_some_iff.mp found
      simp only [reading, called]
      cases (type o).ofOptionValue? value <;> simp [Except.map]
  | unset name =>
    rw [apply_unset, fault?]
    cases kind.option? name <;> simp
  | assign o value => simp [apply, fault?]
  | minify => simp [apply, fault?]
  | production => simp [apply, fault?]
  | development => simp [apply, fault?]
  | add c entry => simp [apply, fault?]

theorem perform_of_error {edit : Edit kind} {settings : kind.Settings} {error : ConfigError}
    (h : edit.apply settings = .error error) : edit.perform settings = settings := by
  rw [perform, h]

theorem perform_set (settings : kind.Settings) (name : String) (value : OptionValue) :
    (Edit.set name value).perform settings =
      match kind.option? name with
      | some o =>
        match (type o).ofOptionValue? value with
        | some x => update settings o (some x)
        | none => settings
      | none => settings := by
  rw [perform, apply_set]
  cases kind.option? name with
  | none => rfl
  | some o =>
    simp only [reading]
    cases (type o).ofOptionValue? value <;> rfl

theorem perform_unset (settings : kind.Settings) (name : String) :
    (Edit.unset name).perform settings =
      match kind.option? name with
      | some o => update settings o none
      | none => settings := by
  rw [perform, apply_unset]
  cases kind.option? name <;> rfl

theorem mapShared_minify (settings : kind.Settings) :
    mapShared .minify settings =
      update (update (update settings (.shared .minifyWhitespace) (some true))
        (.shared .minifyIdentifiers) (some true)) (.shared .minifySyntax) (some true) := by
  cases kind <;> rfl

theorem mapShared_development (settings : kind.Settings) :
    mapShared .development settings =
      update (update settings (.shared .jsxDev) (some true)) (.shared .keepNames) (some true) := by
  cases kind <;> rfl

theorem written_minify (settings : kind.Settings) :
    written (mapShared .minify settings) =
      overwritten (written settings) (Edit.minify : Edit kind).writes := by
  rw [mapShared_minify, written_update, written_update, written_update, ← overwritten_append,
    ← overwritten_append]
  rfl

theorem explicit?_add (settings : kind.Settings) (c : kind.Collection) (entry : c.Entry)
    (o : kind.ScalarOption) :
    explicit? (Settings.add settings c entry) o = explicit? settings o := by
  cases kind <;> cases c <;> cases o <;> rfl

/-- An edit of settings writes to what was written. -/
theorem written_perform (edit : Edit kind) (settings : kind.Settings) :
    written (edit.perform settings) = overwritten (written settings) edit.writes := by
  cases edit with
  | set name value =>
    rw [perform_set, writes, SettingsKind.canonical?]
    cases found : kind.option? name with
    | none => rfl
    | some o =>
      have called : OptionFamily.name o = name := ofName?_eq_some_iff.mp found
      cases read : (type o).ofOptionValue? value with
      | none => simp [read, overwritten_nil]
      | some x => simp [read, written_update, called]
  | unset name =>
    rw [perform_unset, writes]
    cases found : kind.option? name with
    | none => rfl
    | some o =>
      have called : OptionFamily.name o = name := ofName?_eq_some_iff.mp found
      simp [written_update, called]
  | assign o value =>
    change written (Settings.assign settings o value) = _
    rw [assign_eq, written_update]
    rfl
  | minify => exact written_minify settings
  | production => exact written_minify settings
  | development =>
    change written (mapShared .development settings) = _
    rw [mapShared_development, written_update, written_update, ← overwritten_append]
    rfl
  | add c entry =>
    funext name
    change written (Settings.add settings c entry) name = written settings name
    simp only [written_eq, explicit?_add]

theorem written_run (edits : List (Edit kind)) (settings : kind.Settings) :
    written (run edits settings) =
      overwritten (written settings) (edits.flatMap Edit.writes) := by
  induction edits generalizing settings with
  | nil => rfl
  | cons edit rest ih =>
    rw [List.flatMap_cons, overwritten_append, ← written_perform]
    exact ih (edit.perform settings)

theorem content_minify (settings : kind.Settings) (c : kind.Collection) :
    content (mapShared .minify settings) c = content settings c := by
  rw [mapShared_minify, content_update, content_update, content_update]

theorem content_add_of_ne (settings : kind.Settings) {c d : kind.Collection} (h : d ≠ c)
    (entry : c.Entry) : content (Settings.add settings c entry) d = content settings d := by
  cases kind <;> cases c <;> cases d <;> first | rfl | exact absurd rfl h

/-- An edit leaves lists and maps alone, unless it adds to them. -/
theorem content_perform (edit : Edit kind) (settings : kind.Settings) {c : kind.Collection}
    (other : ∀ entry, edit ≠ .add c entry) :
    content (edit.perform settings) c = content settings c := by
  cases edit with
  | set name value =>
    rw [perform_set]
    split
    · split
      · exact content_update _ _ _ _
      · rfl
    · rfl
  | unset name =>
    rw [perform_unset]
    split
    · exact content_update _ _ _ _
    · rfl
  | assign o value =>
    change content (Settings.assign settings o value) c = _
    rw [assign_eq, content_update]
  | minify => exact content_minify settings c
  | production => exact content_minify settings c
  | development =>
    change content (mapShared .development settings) c = _
    rw [mapShared_development, content_update, content_update]
  | add d entry =>
    refine content_add_of_ne settings ?_ entry
    rintro rfl
    exact other entry rfl

end Edit

/-! ## Explicit options -/

namespace Settings

/-- Whether a scalar option shows as set. -/
def isGiven (settings : kind.Settings) (name : String) : Bool := isSet settings name = .ok true

/-- Whether a list or map holds anything. -/
def isFilled (settings : kind.Settings) (c : kind.Collection) : Bool :=
  !c.isEmpty (content settings c)

theorem isGiven_name (settings : kind.Settings) (o : kind.ScalarOption) :
    isGiven settings (OptionFamily.name o) = (explicit? settings o).isSome := by
  simp [isGiven, isSet_eq, option?_name]

theorem filter_isGiven_shared (settings : kind.Settings) :
    ((all : List SharedOption).map OptionFamily.name).filter (isGiven settings) =
      (sharedPart settings).scalars.setOptions.map OptionFamily.name := by
  rw [List.filter_map]
  congr 1
  exact List.filter_congr fun o _ => isGiven_name settings (.shared o)

theorem filter_isGiven_own (settings : kind.Settings) :
    ((all : List kind.OwnOption).map OptionFamily.name).filter (isGiven settings) =
      (own settings).setOptions.map OptionFamily.name := by
  rw [List.filter_map]
  congr 1
  exact List.filter_congr fun o _ => isGiven_name settings (.own o)

theorem collections_sharedPart (settings : kind.Settings) :
    ((sharedPart settings).collections.filter (!·.2)).map (·.1) =
      ((Collection.allShared kind).filter (isFilled settings)).map Collection.name := by
  have eq : (sharedPart settings).collections = (Collection.allShared kind).map fun c =>
      (c.name, c.isEmpty (content settings c)) := by cases kind <;> rfl
  rw [eq, List.filter_map, List.map_map]
  rfl

theorem collections_build (settings : SettingsKind.build.Settings) :
    ((BuildSettings.collections settings).filter (!·.2)).map (·.1) =
      ((Collection.allOwn .build).filter (isFilled settings)).map Collection.name := by
  have eq : BuildSettings.collections settings = (Collection.allOwn .build).map fun c =>
      (c.name, c.isEmpty (content settings c)) := rfl
  rw [eq, List.filter_map, List.map_map]
  rfl

theorem explicitOptions_eq (settings : kind.Settings) :
    explicitOptions settings =
      ((all : List SharedOption).map OptionFamily.name).filter (isGiven settings) ++
      ((Collection.allShared kind).filter (isFilled settings)).map Collection.name ++
      ((all : List kind.OwnOption).map OptionFamily.name).filter (isGiven settings) ++
      ((Collection.allOwn kind).filter (isFilled settings)).map Collection.name := by
  rw [filter_isGiven_shared, filter_isGiven_own, ← collections_sharedPart]
  cases kind with
  | build => rw [← collections_build]; rfl
  | transform => exact (List.append_nil _).symm
  | shared => exact (List.append_nil _).symm.trans (List.append_nil _).symm

/-- The names of all options of a kind, in the order in which explicit ones are listed. -/
def namesInOrder (kind : SettingsKind) : List String :=
  (all : List SharedOption).map OptionFamily.name ++
  (Collection.allShared kind).map Collection.name ++
  (all : List kind.OwnOption).map OptionFamily.name ++
  (Collection.allOwn kind).map Collection.name

theorem nodup_namesInOrder (kind : SettingsKind) : (namesInOrder kind).Nodup := by
  cases kind <;> decide +kernel

theorem nodup_explicitOptions (settings : kind.Settings) : (explicitOptions settings).Nodup := by
  rw [explicitOptions_eq]
  refine (nodup_namesInOrder kind).sublist ?_
  exact ((List.filter_sublist.append (List.filter_sublist.map _)).append
    List.filter_sublist).append (List.filter_sublist.map _)

end Settings

/-- The settings of a kind refine a map from names to values. -/
structure RefinesMap (kind : SettingsKind) : Prop where
  /-- After any edits settings show the last writes, over what was written in the beginning. -/
  shows : ∀ (edits : List (Edit kind)) (settings : kind.Settings),
    Shows (Edit.run edits settings)
      (overwritten (written settings) (edits.flatMap Edit.writes))
  /-- The default of the loader is that of the kind, and other defaults are those of their type. -/
  loader : kind.default? "loader" =
    match kind with
    | .build => some (.text "js")
    | .transform => some (.text "jsx")
    | .shared => none
  defaults : ∀ o : kind.ScalarOption, OptionFamily.name o ≠ "loader" →
    OptionFamily.default o = (type o).default
  /-- Options that an edit does not write show what they did. -/
  others : ∀ (edit : Edit kind) (settings : kind.Settings) (name : String),
    name ∉ edit.writes.map (·.1) →
      get (edit.perform settings) name = get settings name ∧
      isSet (edit.perform settings) name = isSet settings name
  collections : ∀ (edit : Edit kind) (settings : kind.Settings) (c : kind.Collection),
    (∀ entry, edit ≠ .add c entry) → content (edit.perform settings) c = content settings c
  /-- Which edits fail, and why, and that they change nothing. -/
  fails_iff : ∀ (edit : Edit kind) (settings : kind.Settings) (error : ConfigError),
    edit.apply settings = .error error ↔ edit.fault? = some error
  unchanged : ∀ (edit : Edit kind) (settings : kind.Settings) (error : ConfigError),
    edit.apply settings = .error error → edit.perform settings = settings
  explicit : ∀ settings : kind.Settings, explicitOptions settings =
    ((all : List SharedOption).map OptionFamily.name).filter (isGiven settings) ++
    ((Collection.allShared kind).filter (isFilled settings)).map Collection.name ++
    ((all : List kind.OwnOption).map OptionFamily.name).filter (isGiven settings) ++
    ((Collection.allOwn kind).filter (isFilled settings)).map Collection.name
  nodup : ∀ settings : kind.Settings, (explicitOptions settings).Nodup

theorem shows_run (edits : List (Edit kind)) (settings : kind.Settings) :
    Shows (Edit.run edits settings)
      (overwritten (written settings) (edits.flatMap Edit.writes)) :=
  Edit.written_run edits settings ▸ shows_written _

theorem default_eq_of_name_ne (o : kind.ScalarOption) (h : OptionFamily.name o ≠ "loader") :
    OptionFamily.default o = (type o).default := by
  cases o with
  | shared o => rfl
  | own o =>
    cases kind with
    | build => rfl
    | transform =>
      cases o with
      | sourcefile => rfl
      | loader => exact absurd rfl h
    | shared => cases o

/-- Settings that show alike by what was written show alike. -/
theorem get_isSet_of_written_eq {a b : kind.Settings} {name : String}
    (h : written a name = written b name) :
    get a name = get b name ∧ isSet a name = isSet b name := by
  have first := shows_written a name
  have second := shows_written b name
  rw [h] at first
  cases known : kind.default? name with
  | some usual =>
    simp only [known] at first second
    exact ⟨first.1.trans second.1.symm, first.2.trans second.2.symm⟩
  | none =>
    simp only [known] at first second
    exact ⟨first.1.trans second.1.symm, first.2.trans second.2.symm⟩

theorem settings_refine_map (kind : SettingsKind) : RefinesMap kind where
  shows := shows_run
  loader := by cases kind <;> decide +kernel
  defaults := default_eq_of_name_ne
  others edit settings name absent := by
    refine get_isSet_of_written_eq ?_
    rw [Edit.written_perform, overwritten_of_not_mem _ absent]
  collections edit settings _ other := Edit.content_perform edit settings other
  fails_iff := Edit.apply_eq_error_iff
  unchanged _ _ _ := Edit.perform_of_error
  explicit := explicitOptions_eq
  nodup := nodup_explicitOptions

/-- No loader has the code 6, so that the second edit fails and the first one stands. -/
example :
    let edits : List (Edit .transform) := [.set "loader" (.text " TS"), .set "loader" (.int 6)]
    let settings : SettingsKind.transform.Settings := {}
    get (Edit.run edits settings) "loader" = .ok (.text "ts") ∧
      get (Edit.run (edits ++ [.unset "loader"]) settings) "loader" = .ok (.text "jsx") := by
  decide +kernel

end BundleHost
