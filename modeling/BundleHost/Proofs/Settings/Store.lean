import BundleHost.Settings.Kind
import Mathlib.Data.List.Nodup

/-!
# Settings as a store

Settings of any kind have two layers of scalar options, those of the kind and below them the shared
ones, beside lists and maps. An operation by name looks up the option of the name, in the upper
layer first, and reads or updates its place. No two options have one name, so that which layer
comes first makes no difference.

## Main statements

* `set_eq`, `get_eq`, `isSet_eq`, `unset_eq` — the operations by name on the places of options.
* `explicit?_update_self`, `explicit?_update_of_ne`, `content_update` — an update changes one place.
-/

namespace BundleHost

open SettingsKind

namespace OptionFamily

variable {ι : Type} [DecidableEq ι] [OptionFamily ι]

theorem name_injective {o p : ι} (h : OptionFamily.name o = OptionFamily.name p) : o = p :=
  List.inj_on_of_nodup_map nodup_names (mem_all o) (mem_all p) h

/-- An option is found by its name. -/
theorem ofName?_eq_some_iff {name : String} {o : ι} :
    ofName? name = some o ↔ OptionFamily.name o = name := by
  constructor
  · intro found
    simpa using List.find?_some found
  · rintro rfl
    obtain ⟨p, found⟩ : ∃ p : ι, ofName? (OptionFamily.name o) = some p :=
      Option.isSome_iff_exists.mp (List.find?_isSome.mpr ⟨o, mem_all o, by simp⟩)
    have same : OptionFamily.name p = OptionFamily.name o := by simpa using List.find?_some found
    rw [found, name_injective same]

theorem ofName?_name (o : ι) : ofName? (OptionFamily.name o) = some o :=
  ofName?_eq_some_iff.mpr rfl

/-- What an option is given, or the failure that names the option. -/
def reading (o : ι) (value : OptionValue) : Except ConfigError (Value o) :=
  ((type o).ofOptionValue? value).elim
    (.error (.invalidOption (OptionFamily.name o) value.display (type o).expected)) .ok

end OptionFamily

open OptionFamily

@[simp]
theorem Slots.update_update {ι : Type} [DecidableEq ι] [OptionFamily ι] (slots : Slots ι) (o : ι)
    (first second : Option (Value o)) :
    (slots.update o first).update o second = slots.update o second := by
  ext1 p
  by_cases h : p = o
  · subst h
    simp
  · simp [h]

theorem Slots.setNamed?_eq {ι : Type} [DecidableEq ι] [OptionFamily ι] (slots : Slots ι)
    (name : String) (value : OptionValue) :
    slots.setNamed? name value =
      (ofName? name).map fun o : ι => (reading o value).map (slots.assign o) := by
  rw [setNamed?]
  refine Option.map_congr fun o found => ?_
  obtain rfl := ofName?_eq_some_iff.mp found
  rw [reading]
  cases (type o).ofOptionValue? value <;> rfl

namespace Settings

variable {kind : SettingsKind}

/-! ## Layers -/

/-- The upper layer: the options of the kind only. -/
def own : {kind : SettingsKind} → kind.Settings → Slots kind.OwnOption
  | .build, settings => settings.own
  | .transform, settings => settings.own
  | .shared, _ => .empty

def putOwn : {kind : SettingsKind} → kind.Settings → Slots kind.OwnOption → kind.Settings
  | .build, settings, slots => { settings with own := slots }
  | .transform, settings, slots => { settings with own := slots }
  | .shared, settings, _ => settings

def putShared (settings : kind.Settings) (slots : Slots SharedOption) : kind.Settings :=
  mapShared (fun shared => { shared with scalars := slots }) settings

@[simp]
theorem own_putOwn (settings : kind.Settings) (slots : Slots kind.OwnOption) :
    own (putOwn settings slots) = slots := by
  cases kind with
  | build => rfl
  | transform => rfl
  | shared => exact Slots.ext nofun

@[simp]
theorem own_putShared (settings : kind.Settings) (slots : Slots SharedOption) :
    own (putShared settings slots) = own settings := by
  cases kind <;> rfl

@[simp]
theorem sharedPart_mapShared (change : SharedSettings → SharedSettings)
    (settings : kind.Settings) :
    sharedPart (mapShared change settings) = change (sharedPart settings) := by
  cases kind <;> rfl

theorem mapShared_mapShared (first second : SharedSettings → SharedSettings)
    (settings : kind.Settings) :
    mapShared second (mapShared first settings) = mapShared (second ∘ first) settings := by
  cases kind <;> rfl

@[simp]
theorem sharedPart_putOwn (settings : kind.Settings) (slots : Slots kind.OwnOption) :
    sharedPart (putOwn settings slots) = sharedPart settings := by
  cases kind <;> rfl

theorem content_putOwn (settings : kind.Settings) (slots : Slots kind.OwnOption)
    (c : kind.Collection) : content (putOwn settings slots) c = content settings c := by
  cases kind <;> cases c <;> rfl

theorem content_putShared (settings : kind.Settings) (slots : Slots SharedOption)
    (c : kind.Collection) : content (putShared settings slots) c = content settings c := by
  cases kind <;> cases c <;> rfl

/-! ## Places -/

/-- The value that an option was set to. -/
def explicit? (settings : kind.Settings) : (o : kind.ScalarOption) → Option (Value o)
  | .own o => (own settings).explicit? o
  | .shared o => (sharedPart settings).scalars.explicit? o

/-- Makes an option hold what is given. -/
def update (settings : kind.Settings) : (o : kind.ScalarOption) → Option (Value o) → kind.Settings
  | .own o, value => putOwn settings ((own settings).update o value)
  | .shared o, value => putShared settings ((sharedPart settings).scalars.update o value)

@[simp]
theorem explicit?_update_self (settings : kind.Settings) (o : kind.ScalarOption)
    (value : Option (Value o)) : explicit? (update settings o value) o = value := by
  cases o <;> simp [explicit?, update, putShared]

theorem explicit?_update_of_ne (settings : kind.Settings) {o p : kind.ScalarOption} (h : p ≠ o)
    (value : Option (Value o)) :
    explicit? (update settings o value) p = explicit? settings p := by
  cases o with
  | own o =>
    cases p with
    | own p =>
      have other : p ≠ o := fun eq => h (congrArg _ eq)
      simp [explicit?, update, other]
    | shared p => simp [explicit?, update]
  | shared o =>
    cases p with
    | own p => simp [explicit?, update]
    | shared p =>
      have other : p ≠ o := fun eq => h (congrArg _ eq)
      simp [explicit?, update, putShared, other]

theorem content_update (settings : kind.Settings) (o : kind.ScalarOption)
    (value : Option (Value o)) (c : kind.Collection) :
    content (update settings o value) c = content settings c := by
  cases o with
  | own o => exact content_putOwn _ _ _
  | shared o => exact content_putShared _ _ _

@[simp]
theorem update_update (settings : kind.Settings) (o : kind.ScalarOption)
    (first second : Option (Value o)) :
    update (update settings o first) o second = update settings o second := by
  cases o with
  | own o => cases kind <;> simp [update, own, putOwn]
  | shared o => simp [update, putShared, mapShared_mapShared, Function.comp_def]

theorem assign_eq (settings : kind.Settings) (o : kind.ScalarOption) (value : Value o) :
    assign settings o value = update settings o (some value) := by
  cases o with
  | own o =>
    cases kind with
    | build => rfl
    | transform => rfl
    | shared => cases o
  | shared o => cases kind <;> rfl

/-! ## Operations by name -/

/-- A name goes to the upper layer, and to the lower one if the upper does not have it. -/
theorem set_layers (settings : kind.Settings) (name : String) (value : OptionValue) :
    set settings name value =
      match (own settings).setNamed? name value with
      | some result => result.map (putOwn settings)
      | none =>
        match (sharedPart settings).scalars.setNamed? name value with
        | some result => result.map (putShared settings)
        | none => .error (.unknownOption name) := by
  cases kind with
  | build =>
    simp only [set, BuildSettings.set, ScopedSettings.set, SharedSettings.set, own, sharedPart]
    rcases settings.own.setNamed? name value with _ | _ | _
    · rcases settings.shared.scalars.setNamed? name value with _ | _ | _ <;> rfl
    · rfl
    · rfl
  | transform =>
    simp only [set, ScopedSettings.set, SharedSettings.set, own, sharedPart]
    rcases settings.own.setNamed? name value with _ | _ | _
    · rcases settings.shared.scalars.setNamed? name value with _ | _ | _ <;> rfl
    · rfl
    · rfl
  | shared =>
    simp only [set, SharedSettings.set, sharedPart]
    rcases settings.scalars.setNamed? name value with _ | _ | _ <;> rfl

theorem unset_layers (settings : kind.Settings) (name : String) :
    unset settings name =
      match (own settings).clearNamed? name with
      | some slots => .ok (putOwn settings slots)
      | none =>
        match (sharedPart settings).scalars.clearNamed? name with
        | some slots => .ok (putShared settings slots)
        | none => .error (.unknownOption name) := by
  cases kind with
  | build =>
    simp only [unset, BuildSettings.unset, ScopedSettings.unset, SharedSettings.unset, own,
      sharedPart]
    rcases settings.own.clearNamed? name with _ | _
    · rcases settings.shared.scalars.clearNamed? name with _ | _ <;> rfl
    · rfl
  | transform =>
    simp only [unset, ScopedSettings.unset, SharedSettings.unset, own, sharedPart]
    rcases settings.own.clearNamed? name with _ | _
    · rcases settings.shared.scalars.clearNamed? name with _ | _ <;> rfl
    · rfl
  | shared => rfl

theorem get_layers (settings : kind.Settings) (name : String) :
    get settings name =
      match (own settings).getNamed? name with
      | some value => .ok value
      | none =>
        match (sharedPart settings).scalars.getNamed? name with
        | some value => .ok value
        | none => .error (.unknownOption name) := by
  cases kind <;> rfl

theorem isSet_layers (settings : kind.Settings) (name : String) :
    isSet settings name =
      match (own settings).isSetNamed? name with
      | some value => .ok value
      | none =>
        match (sharedPart settings).scalars.isSetNamed? name with
        | some value => .ok value
        | none => .error (.unknownOption name) := by
  cases kind <;> rfl

/-- Where a name is found: in the upper layer, in the lower one only, or in neither. -/
theorem option?_cases (kind : SettingsKind) (name : String) :
    (∃ o : kind.OwnOption, ofName? name = some o ∧ kind.option? name = some (.own o)) ∨
    (∃ o : SharedOption, (ofName? name : Option kind.OwnOption) = none ∧ ofName? name = some o ∧
      kind.option? name = some (.shared o)) ∨
    ((ofName? name : Option kind.OwnOption) = none ∧ (ofName? name : Option SharedOption) = none ∧
      kind.option? name = none) := by
  cases upper : (ofName? name : Option kind.OwnOption) with
  | some o =>
    have called : OptionFamily.name o = name := ofName?_eq_some_iff.mp upper
    exact .inl ⟨o, rfl, ofName?_eq_some_iff.mpr called⟩
  | none =>
    cases lower : (ofName? name : Option SharedOption) with
    | some o =>
      have called : OptionFamily.name o = name := ofName?_eq_some_iff.mp lower
      exact .inr (.inl ⟨o, rfl, rfl, ofName?_eq_some_iff.mpr called⟩)
    | none =>
      refine .inr (.inr ⟨rfl, rfl, Option.eq_none_iff_forall_ne_some.mpr fun o found => ?_⟩)
      have called : OptionFamily.name o = name := ofName?_eq_some_iff.mp found
      cases o with
      | own o =>
        have there : ofName? name = some o := ofName?_eq_some_iff.mpr called
        rw [upper] at there
        cases there
      | shared o =>
        have there : ofName? name = some o := ofName?_eq_some_iff.mpr called
        rw [lower] at there
        cases there

theorem reading_own (o : kind.OwnOption) (value : OptionValue) :
    reading (.own o : kind.ScalarOption) value = reading o value := rfl

theorem reading_shared (o : SharedOption) (value : OptionValue) :
    reading (.shared o : kind.ScalarOption) value = reading o value := rfl

theorem set_eq (settings : kind.Settings) (name : String) (value : OptionValue) :
    set settings name value =
      match kind.option? name with
      | some o => (reading o value).map fun x => update settings o (some x)
      | none => .error (.unknownOption name) := by
  rw [set_layers, Slots.setNamed?_eq, Slots.setNamed?_eq]
  obtain ⟨o, upper, found⟩ | ⟨o, upper, lower, found⟩ | ⟨upper, lower, found⟩ :=
    option?_cases kind name
  · simp only [upper, found, reading_own, Option.map_some]
    cases reading o value <;> rfl
  · simp only [upper, lower, found, reading_shared, Option.map_some, Option.map_none]
    cases reading o value <;> rfl
  · rw [upper, lower, found]
    rfl

theorem unset_eq (settings : kind.Settings) (name : String) :
    unset settings name =
      match kind.option? name with
      | some o => .ok (update settings o none)
      | none => .error (.unknownOption name) := by
  rw [unset_layers, Slots.clearNamed?, Slots.clearNamed?]
  obtain ⟨o, upper, found⟩ | ⟨o, upper, lower, found⟩ | ⟨upper, lower, found⟩ :=
    option?_cases kind name
  · rw [upper, found]; rfl
  · rw [upper, lower, found]; rfl
  · rw [upper, lower, found]; rfl

theorem get_eq (settings : kind.Settings) (name : String) :
    get settings name =
      match kind.option? name with
      | some o =>
        .ok ((type o).toOptionValue ((explicit? settings o).getD (OptionFamily.default o)))
      | none => .error (.unknownOption name) := by
  rw [get_layers, Slots.getNamed?, Slots.getNamed?]
  obtain ⟨o, upper, found⟩ | ⟨o, upper, lower, found⟩ | ⟨upper, lower, found⟩ :=
    option?_cases kind name
  · rw [upper, found]; rfl
  · rw [upper, lower, found]; rfl
  · rw [upper, lower, found]; rfl

theorem isSet_eq (settings : kind.Settings) (name : String) :
    isSet settings name =
      match kind.option? name with
      | some o => .ok (explicit? settings o).isSome
      | none => .error (.unknownOption name) := by
  rw [isSet_layers, Slots.isSetNamed?, Slots.isSetNamed?]
  obtain ⟨o, upper, found⟩ | ⟨o, upper, lower, found⟩ | ⟨upper, lower, found⟩ :=
    option?_cases kind name
  · rw [upper, found]; rfl
  · rw [upper, lower, found]; rfl
  · rw [upper, lower, found]; rfl

end Settings

end BundleHost
