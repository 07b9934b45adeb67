import BundleHost.Proofs.Plan.Directories
import Mathlib.Data.List.Destutter

/-!
# Names that are exported twice

The names that a module exports are gathered from its text with all repetitions: those of
declarations first, then those in lists. A name that follows itself is left out, and nothing else
is. So a name is given twice by one file exactly if another name stands between two of its places.

## Main statements

* `dropRepeats_eq_destutter` — what leaving out names that follow themselves is.
* `nodup_dropRepeats_iff` — when no name is left twice.
* `injections_of_plan` — what the files of a build give to all modules.
* `names_once_iff` — when each name that a text exports is given once.
-/

namespace BundleHost.Exports

/-! ## Neighbours -/

theorem dropRepeats_eq_destutter (names : List String) :
    dropRepeats names = names.destutter (· ≠ ·) := by
  fun_induction dropRepeats names with
  | case1 a rest ih => rw [ih, List.destutter_cons_cons, if_neg (not_not_intro rfl)]; rfl
  | case2 a b rest other ih => rw [ih, List.destutter_cons_cons, if_pos other]; rfl
  | case3 names short =>
    cases names with
    | nil => rfl
    | cons a names =>
      cases names with
      | nil => rfl
      | cons b rest => exact absurd rfl (short a b rest)

/-- Names that are picked so that no two neighbours are equal can still be picked when repetitions
are left out. -/
theorem sublist_dropRepeats {picked names : List String} (varied : picked.IsChain (· ≠ ·))
    (sub : picked.Sublist names) : picked.Sublist (dropRepeats names) := by
  fun_induction dropRepeats names generalizing picked with
  | case1 a rest ih =>
    cases sub with
    | cons _ sub => exact ih varied sub
    | cons_cons _ sub =>
      refine ih varied (List.Sublist.cons_cons a ?_)
      cases sub with
      | cons _ sub => exact sub
      | cons_cons _ sub => exact absurd rfl (List.isChain_cons_cons.mp varied).1
  | case2 a b rest other ih =>
    cases sub with
    | cons _ sub => exact (ih varied sub).cons a
    | cons_cons _ sub => exact (ih varied.tail sub).cons_cons a
  | case3 names short => exact sub

/-- Where no two neighbours are equal, something else stands between two equal items. -/
theorem exists_between {a : String} {names : List String} (varied : names.IsChain (· ≠ ·))
    (twice : [a, a].Sublist names) : ∃ b, a ≠ b ∧ [a, b, a].Sublist names := by
  induction names with
  | nil => cases twice
  | cons first rest ih =>
    cases twice with
    | cons _ twice =>
      obtain ⟨b, other, sub⟩ := ih varied.tail twice
      exact ⟨b, other, sub.cons first⟩
    | cons_cons _ again =>
      cases rest with
      | nil => cases again
      | cons b rest =>
        have other : a ≠ b := (List.isChain_cons_cons.mp varied).1
        cases again with
        | cons _ again => exact ⟨b, other, (again.cons_cons b).cons_cons a⟩
        | cons_cons _ => exact absurd rfl other

/-- No name returns after another one. -/
def NoneReturns (names : List String) : Prop :=
  ∀ a b, [a, b, a].Sublist names → a = b

theorem nodup_dropRepeats_iff {names : List String} :
    (dropRepeats names).Nodup ↔ NoneReturns names := by
  have varied : (dropRepeats names).IsChain (· ≠ ·) := by
    rw [dropRepeats_eq_destutter]
    exact List.isChain_destutter _ names
  have fewer : (dropRepeats names).Sublist names := by
    rw [dropRepeats_eq_destutter]
    exact List.destutter_sublist _ names
  constructor
  · intro once a b sub
    by_contra other
    have left : [a, b, a].Sublist (dropRepeats names) :=
      sublist_dropRepeats (by simp [other, Ne.symm other]) sub
    have none := once.sublist left
    simp at none
  · intro grouped
    rw [List.nodup_iff_sublist]
    intro a twice
    obtain ⟨b, other, sub⟩ := exists_between varied twice
    exact other (grouped a b (sub.trans fewer))

/-- Leaving out repetitions leaves no name out. -/
theorem mem_dropRepeats {name : String} {names : List String} :
    name ∈ dropRepeats names ↔ name ∈ names := by
  constructor
  · intro mem
    rw [dropRepeats_eq_destutter] at mem
    exact (List.destutter_sublist _ names).mem mem
  · intro mem
    have alone : [name].Sublist names := List.singleton_sublist.mpr mem
    exact List.singleton_sublist.mp (sublist_dropRepeats (List.isChain_singleton name) alone)

/-! ## Names of a file -/

section AnyEngine

variable [RegexEngine]

/-- The exported names in a text, with all repetitions. -/
def gathered (text : String) : List String :=
  Text.scan declaration? 0 text.toList ++ (Text.scan exportList? 0 text.toList).flatten

/-- What a file gives to all modules, if it can be read. -/
def given (disk : Disk) (path : String) : List Injection :=
  match disk.readText path with
  | .ok text => (names text).map (⟨·, path⟩)
  | .error _ => []

theorem eq_given_of_injectFile {disk : Disk} {path : String} {injections : List Injection}
    (read : injectFile disk path = .ok injections) : injections = given disk path := by
  unfold injectFile at read
  unfold given
  cases text : disk.readText path with
  | ok text =>
    rw [text] at read
    exact (Except.ok.inj read).symm
  | error fault =>
    rw [text] at read
    cases read

theorem eq_given_of_injectFiles {disk : Disk} {paths : List String} {injections : List Injection}
    (read : injectFiles disk paths = .ok injections) :
    injections = paths.flatMap (given disk) := by
  induction paths generalizing injections with
  | nil => exact (Except.ok.inj read).symm
  | cons path rest ih =>
    obtain ⟨first, here, read⟩ := Decoder.bind_eq_ok_iff.mp read
    obtain ⟨later, there, all⟩ := Decoder.bind_eq_ok_iff.mp read
    rw [List.flatMap_cons, ← eq_given_of_injectFile here, ← ih there]
    exact (Except.ok.inj all).symm

/-- What the files of a build give, one file behind the other. -/
theorem injections_of_plan {site : RunSite} {settings : BuildSettings} {plan : Plan}
    (planned : Plan.forBuild site.processDir site.disk settings site.source = .ok plan) :
    plan.options.inject.getD [] =
      (settings.inject.map (Path.join (Plan.buildDir site settings))).flatMap
        (given site.disk) := by
  rw [Plan.forBuild_eq] at planned
  obtain ⟨inject, read, rfl⟩ := Decoder.map_eq_ok_iff.mp planned
  change inject.getD [] = _
  unfold BuildSettings.injections at read
  split at read
  next empty =>
    obtain rfl := Except.ok.inj read
    rw [List.isEmpty_iff.mp empty]
    rfl
  next =>
    obtain ⟨injections, all, rfl⟩ := Decoder.map_eq_ok_iff.mp read
    exact eq_given_of_injectFiles all

/-- Which names a text exports, and when a build in which files have this text is told each of them
once by each of these files. -/
theorem names_once_iff (text : String) :
    names text = (gathered text).destutter (· ≠ ·) ∧
      (∀ name, name ∈ names text ↔ name ∈ gathered text) ∧
      ((names text).Nodup ↔ NoneReturns (gathered text)) ∧
      (∀ disk path, disk.readText path = .ok text →
        given disk path = (names text).map (⟨·, path⟩) ∧
          ((given disk path).Nodup ↔ NoneReturns (gathered text))) ∧
      ∀ (site : RunSite) settings plan,
        Plan.forBuild site.processDir site.disk settings site.source = .ok plan →
          plan.options.inject.getD [] =
            (settings.inject.map (Path.join (Plan.buildDir site settings))).flatMap
              (given site.disk) := by
  have once : (names text).Nodup ↔ NoneReturns (gathered text) := nodup_dropRepeats_iff
  refine ⟨dropRepeats_eq_destutter _, fun name => mem_dropRepeats, once, ?_, ?_⟩
  · intro disk path read
    have here : given disk path = (names text).map (⟨·, path⟩) := by rw [given, read]
    have distinct : Function.Injective fun name : String => (⟨name, path⟩ : Injection) :=
      fun _ _ same => congrArg Injection.name same
    refine ⟨here, ?_⟩
    rw [here, List.nodup_map_iff distinct]
    exact once
  · intro site settings plan planned
    exact injections_of_plan planned

end AnyEngine

/-! ## A file with two lists -/

/-- A disk with one file. -/
def diskWith (text : String) : Disk := ⟨[(["shim.js"], .file (Text.Utf8.encode text))]⟩

/-- A build into which this file is injected. -/
def shimmed : BuildSettings := { inject := ["shim.js"] }

def shimSite (text : String) : RunSite := ⟨"/", diskWith text, ""⟩

theorem paths_shimmed (text : String) :
    shimmed.inject.map (Path.join (Plan.buildDir (shimSite text) shimmed)) = ["/shim.js"] := by
  change [Path.join (Plan.directory "/" none) "shim.js"] = ["/shim.js"]
  decide +kernel

theorem exists_plan_shimmed {text : String}
    (read : (diskWith text).readText "/shim.js" = .ok text) :
    ∃ plan, Plan.forBuild "/" (diskWith text) shimmed "" = .ok plan := by
  refine (@Plan.exists_forBuild_iff _ (shimSite text) shimmed).mpr fun file mem => ⟨text, ?_⟩
  have path := List.mem_map_of_mem (f := Path.join (Plan.buildDir (shimSite text) shimmed)) mem
  rw [paths_shimmed, List.mem_singleton] at path
  exact path ▸ read

/-- Names that follow themselves are given once. -/
theorem names_once_neighbours :
    let text := "export{a,b,b}//export{b}"
    (diskWith text).readText "/shim.js" = .ok text ∧
      ∃ plan, Plan.forBuild "/" (diskWith text) shimmed "" = .ok plan ∧
        NoneReturns (gathered text) ∧
        plan.options.inject.getD [] = [⟨"a", "/shim.js"⟩, ⟨"b", "/shim.js"⟩] ∧
        (plan.options.inject.getD []).Nodup := by
  intro text
  have read : (diskWith text).readText "/shim.js" = .ok text := by decide +kernel
  have listed : names text = ["a", "b"] := by decide +kernel
  obtain ⟨plan, planned⟩ := exists_plan_shimmed read
  obtain ⟨-, -, once, ofFile, ofPlan⟩ := names_once_iff text
  have grouped : NoneReturns (gathered text) := once.mp (by rw [listed]; decide)
  obtain ⟨here, givenOnce⟩ := ofFile _ _ read
  have told := ofPlan (shimSite text) shimmed plan planned
  rw [paths_shimmed, List.flatMap_singleton] at told
  refine ⟨read, plan, planned, grouped, ?_, told ▸ givenOnce.mpr grouped⟩
  rw [told]
  exact here.trans (by rw [listed]; rfl)

/-- A name that returns is given twice by one file. -/
theorem name_given_twice :
    let text := "export{a,b}//export{a}"
    ¬ (names text).Nodup ∧
      ∃ plan, Plan.forBuild "/" (diskWith text) shimmed "" = .ok plan ∧
        plan.options.inject.getD [] =
          [⟨"a", "/shim.js"⟩, ⟨"b", "/shim.js"⟩, ⟨"a", "/shim.js"⟩] := by
  intro text
  have read : (diskWith text).readText "/shim.js" = .ok text := by decide +kernel
  have listed : names text = ["a", "b", "a"] := by decide +kernel
  obtain ⟨plan, planned⟩ := exists_plan_shimmed read
  have told := @injections_of_plan _ (shimSite text) shimmed plan planned
  rw [paths_shimmed, List.flatMap_singleton] at told
  refine ⟨by rw [listed]; decide, plan, planned, ?_⟩
  rw [told, shimSite, given, read]
  exact congrArg (List.map _) listed

end BundleHost.Exports
