import BundleHost.Proofs.Settings.Refinement
import BundleHost.Settings.Coding

/-!
# Places of settings

A place of settings is a scalar option or a list or map. No two places have one name, what one place
holds can be changed without the others, and settings are known by what their places hold.

## Main statements

* `held_put_self`, `held_put_of_ne` — a place is changed alone.
* `ext_held`, `exists_held` — settings are what their places hold, and anything may be held.
-/

namespace BundleHost

open SettingsKind OptionFamily Settings

/-- A scalar option, or a list or map. -/
inductive Place (kind : SettingsKind) where
  | scalar (o : kind.ScalarOption)
  | collection (c : kind.Collection)
  deriving DecidableEq

namespace Place

variable {kind : SettingsKind}

def name : Place kind → String
  | .scalar o => OptionFamily.name o
  | .collection c => c.name

abbrev Held : Place kind → Type
  | .scalar o => Option (Value o)
  | .collection c => c.Content

/-- Whether settings of other kinds lack the place. -/
def isOwn : {kind : SettingsKind} → Place kind → Bool
  | _, .scalar (.own _) => true
  | .build, .collection .entryPoints => true
  | .build, .collection .external => true
  | .build, .collection .inject => true
  | _, _ => false

def isScalar : Place kind → Bool
  | .scalar _ => true
  | .collection _ => false

/-- The places in the order in which explicit options are listed. -/
def all (kind : SettingsKind) : List (Place kind) :=
  (OptionFamily.all : List SharedOption).map (fun o => .scalar (.shared o)) ++
  (Collection.allShared kind).map .collection ++
  (OptionFamily.all : List kind.OwnOption).map (fun o => .scalar (.own o)) ++
  (Collection.allOwn kind).map .collection

theorem mem_allShared_or_mem_allOwn (c : kind.Collection) :
    c ∈ Collection.allShared kind ∨ c ∈ Collection.allOwn kind := by
  cases kind <;> cases c <;> simp [Collection.allShared, Collection.allOwn]

theorem mem_all (p : Place kind) : p ∈ all kind := by
  match p with
  | .scalar (.own o) => simp [all, OptionFamily.mem_all o]
  | .scalar (.shared o) => simp [all, OptionFamily.mem_all o]
  | .collection c => simp [all, mem_allShared_or_mem_allOwn c]

theorem map_name_all : (all kind).map name = namesInOrder kind := by
  simp [all, namesInOrder, Function.comp_def]
  rfl

theorem name_injective {p q : Place kind} (h : p.name = q.name) : p = q := by
  have nodup : ((all kind).map name).Nodup := map_name_all ▸ nodup_namesInOrder kind
  exact List.inj_on_of_nodup_map nodup (mem_all p) (mem_all q) h

theorem mem_namesInOrder {key : String} :
    key ∈ namesInOrder kind ↔ ∃ p : Place kind, p.name = key := by
  rw [← map_name_all, List.mem_map]
  exact ⟨fun ⟨p, _, eq⟩ => ⟨p, eq⟩, fun ⟨p, eq⟩ => ⟨p, mem_all p, eq⟩⟩

end Place

namespace Settings

variable {kind : SettingsKind}

/-- Settings in which nothing was given. -/
def empty : {kind : SettingsKind} → kind.Settings
  | .build => {}
  | .transform => {}
  | .shared => {}

/-- What a place holds: the value that an option was set to, if it was, or a list or map. -/
def held (settings : kind.Settings) : (p : Place kind) → p.Held
  | .scalar o => explicit? settings o
  | .collection c => content settings c

/-- Makes a list or map hold what is given. -/
def fill : {kind : SettingsKind} → kind.Settings → (c : kind.Collection) → c.Content → kind.Settings
  | _, settings, .pureNames, list => mapShared ({ · with pureNames := list }) settings
  | _, settings, .dropLabels, list => mapShared ({ · with dropLabels := list }) settings
  | _, settings, .engines, list => mapShared ({ · with engines := list }) settings
  | _, settings, .define, map => mapShared ({ · with define := map }) settings
  | _, settings, .logOverride, map => mapShared ({ · with logOverride := map }) settings
  | _, settings, .supported, map => mapShared ({ · with supported := map }) settings
  | .build, settings, .entryPoints, list => { settings with entryPoints := list }
  | .build, settings, .external, list => { settings with external := list }
  | .build, settings, .inject, list => { settings with inject := list }

/-- Makes a place hold what is given. -/
def put (settings : kind.Settings) : (p : Place kind) → p.Held → kind.Settings
  | .scalar o, value => update settings o value
  | .collection c, content => fill settings c content

theorem content_fill_self (settings : kind.Settings) (c : kind.Collection) (new : c.Content) :
    content (fill settings c new) c = new := by
  cases kind <;> cases c <;> rfl

theorem content_fill_of_ne (settings : kind.Settings) {c d : kind.Collection} (h : d ≠ c)
    (new : c.Content) : content (fill settings c new) d = content settings d := by
  cases kind <;> cases c <;> cases d <;> first | rfl | exact absurd rfl h

theorem explicit?_fill (settings : kind.Settings) (c : kind.Collection) (new : c.Content)
    (o : kind.ScalarOption) : explicit? (fill settings c new) o = explicit? settings o := by
  cases kind <;> cases c <;> cases o <;> rfl

theorem held_put_self (settings : kind.Settings) (p : Place kind) (new : p.Held) :
    held (put settings p new) p = new := by
  cases p with
  | scalar o => exact explicit?_update_self settings o new
  | collection c => exact content_fill_self settings c new

theorem held_put_of_ne (settings : kind.Settings) {p q : Place kind} (h : q ≠ p) (new : p.Held) :
    held (put settings p new) q = held settings q := by
  cases p with
  | scalar o =>
    cases q with
    | scalar o' => exact explicit?_update_of_ne settings (fun eq => h (congrArg _ eq)) new
    | collection c => exact content_update settings o new c
  | collection c =>
    cases q with
    | scalar o => exact explicit?_fill settings c new o
    | collection c' => exact content_fill_of_ne settings (fun eq => h (congrArg _ eq)) new

/-- Settings are known by what their places hold. -/
theorem ext_held {a b : kind.Settings} (h : ∀ p, held a p = held b p) : a = b := by
  have scalars : (sharedPart a).scalars = (sharedPart b).scalars :=
    Slots.ext fun o => h (.scalar (.shared o))
  have shared : sharedPart a = sharedPart b := by
    have pureNames := h (.collection .pureNames)
    have dropLabels := h (.collection .dropLabels)
    have engines := h (.collection .engines)
    have define := h (.collection .define)
    have logOverride := h (.collection .logOverride)
    have supported := h (.collection .supported)
    simp only [held, content] at pureNames dropLabels engines define logOverride supported
    generalize sharedPart a = x at *
    generalize sharedPart b = y at *
    cases x
    cases y
    simp_all
  have own : own a = own b := Slots.ext fun o => h (.scalar (.own o))
  cases kind with
  | build =>
    have entryPoints : a.entryPoints = b.entryPoints := h (.collection .entryPoints)
    have external : a.external = b.external := h (.collection .external)
    have inject : a.inject = b.inject := h (.collection .inject)
    obtain ⟨⟨_, _⟩, _, _, _⟩ := a
    obtain ⟨⟨_, _⟩, _, _, _⟩ := b
    simp_all [sharedPart, Settings.own]
  | transform =>
    obtain ⟨_, _⟩ := a
    obtain ⟨_, _⟩ := b
    simp_all [sharedPart, Settings.own]
  | shared => exact shared

/-- Whatever the places shall hold, there are settings in which they do. -/
theorem exists_held (f : (p : Place kind) → p.Held) : ∃ settings, ∀ p, held settings p = f p := by
  let shared : SharedSettings :=
    { scalars := ⟨fun o => f (.scalar (.shared o))⟩
      pureNames := f (.collection .pureNames)
      dropLabels := f (.collection .dropLabels)
      engines := f (.collection .engines)
      define := f (.collection .define)
      logOverride := f (.collection .logOverride)
      supported := f (.collection .supported) }
  cases kind with
  | build =>
    refine ⟨{ shared, own := ⟨fun o => f (.scalar (.own o))⟩
              entryPoints := f (.collection .entryPoints)
              external := f (.collection .external)
              inject := f (.collection .inject) }, fun p => ?_⟩
    rcases p with (_ | _) | (_ | _ | _ | _ | _ | _ | _ | _ | _) <;> rfl
  | transform =>
    refine ⟨{ shared, own := ⟨fun o => f (.scalar (.own o))⟩ }, fun p => ?_⟩
    rcases p with (_ | _) | (_ | _ | _ | _ | _ | _) <;> rfl
  | shared =>
    refine ⟨shared, fun p => ?_⟩
    rcases p with (o | _) | (_ | _ | _ | _ | _ | _)
    · cases o
    all_goals rfl

end Settings

end BundleHost
