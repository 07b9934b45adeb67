import BundleHost.Plugin.Basic
import BundleHost.Proofs.Decoder
import BundleHost.Proofs.Text.Trim
import Mathlib.Data.List.Induction

/-!
# Building plugins

A plugin is built from a draft that is sound: its name is not blank, all patterns are regular
expressions, and all restrictions can be namespaces. Nothing of the draft is lost or changed; read
as drafts again, the rules of the plugin are those of the draft, in their order. A draft that is not
sound has a first fault, which is reported.

## Main statements

* `RuleDraft.build_eq_ok_iff`, `RuleDraft.build_eq_error_iff` — one rule.
* `PluginDraft.build_eq_ok_iff`, `PluginDraft.build_eq_error_iff` — a whole draft.
* `built_as_registered` — what is built after any calls that add rules and callbacks.
-/

namespace BundleHost

variable [RegexEngine] {m : Type → Type} {ρ α : Type}

open RegexEngine (compile)

namespace Filter

variable {pattern fault : String} {filter : Filter}

theorem ofPattern_eq_ok_iff : ofPattern pattern = .ok filter ↔ filter.source = pattern := by
  unfold ofPattern
  split
  next program compiled =>
    rw [Except.ok.injEq]
    constructor
    · rintro rfl
      rfl
    · exact fun same => (eq_of_source_eq same).symm
  next fault refused =>
    constructor
    · nofun
    · rintro rfl
      exact absurd (filter.compile_source.symm.trans refused) nofun

theorem ofPattern_eq_error_iff :
    ofPattern pattern = .error fault ↔ compile pattern = .error fault := by
  unfold ofPattern
  split
  next program compiled => simp [compiled]
  next other refused => simp [refused]

theorem ofPattern?_eq_some_iff : ofPattern? pattern = some filter ↔ filter.source = pattern := by
  rw [← ofPattern_eq_ok_iff, ofPattern?]
  cases ofPattern pattern <;> simp [Except.toOption]

end Filter

/-! ## Rules -/

/-- The draft of which the rule could have been built. -/
def Rule.draft (rule : Rule m ρ α) : RuleDraft m ρ α :=
  ⟨rule.filter.source, rule.restriction, rule.handler⟩

/-- A single rule is its draft with the pattern compiled. -/
theorem Rule.exists_filter_of_map_draft {rules : List (Rule m ρ α)} {draft : RuleDraft m ρ α}
    (single : rules.map Rule.draft = [draft]) : ∃ filter : Filter,
      filter.source = draft.pattern ∧ rules = [⟨filter, draft.restriction, draft.handler⟩] := by
  obtain ⟨rule, nothing, rfl, rfl, none⟩ := List.map_eq_cons_iff.mp single
  obtain rfl := List.map_eq_nil_iff.mp none
  exact ⟨rule.filter, rfl, rfl⟩

/-- A text that can be a namespace: not empty, without colons and NUL. -/
def Space.IsName (space : String) : Prop :=
  space ≠ "" ∧ ':' ∉ space.toList ∧ '\x00' ∉ space.toList

namespace RuleDraft

variable {plugin : String} {draft : RuleDraft m ρ α} {rule : Rule m ρ α} {error : PluginError}

/-- The pattern is a regular expression, and a restriction that is given can be a namespace. -/
structure IsSound (draft : RuleDraft m ρ α) : Prop where
  isRegex : ∃ program, compile draft.pattern = .ok program
  isName : ∀ space ∈ draft.restriction, Space.IsName space

/-- What is wrong with a rule: the pattern, for the reason that the engine gives, or the
restriction, which counts only if the pattern is sound. -/
inductive Fault (plugin : String) (draft : RuleDraft m ρ α) : PluginError → Prop
  | pattern {fault : String} : compile draft.pattern = .error fault →
      Fault plugin draft (.invalidFilter plugin draft.pattern fault)
  | restriction {program : RegexEngine.Program} {space : String} :
      compile draft.pattern = .ok program → draft.restriction = some space →
        ¬ Space.IsName space → Fault plugin draft (.invalidSpace plugin space)

/-- What can be said of a rule: its plugin, and the pattern with what the engine says of it or the
restriction. -/
inductive Complaint (plugin : String) (draft : RuleDraft m ρ α) : String → Prop
  | pattern {fault : String} : compile draft.pattern = .error fault →
      Complaint plugin draft
        ("plugin '" ++ plugin ++ "' has an invalid filter /" ++ draft.pattern ++ "/: " ++ fault)
  | restriction {space : String} : draft.restriction = some space → ¬ Space.IsName space →
      Complaint plugin draft ("plugin '" ++ plugin ++ "' uses invalid namespace '" ++ space ++ "'")

theorem Fault.complaint (fault : draft.Fault plugin error) :
    draft.Complaint plugin error.message := by
  cases fault with
  | pattern refused =>
    have message : draft.Complaint plugin _ := .pattern refused
    rwa [← show "/" ++ ": " = "/: " from rfl, ← String.append_assoc] at message
  | restriction _ given bad => exact .restriction given bad

theorem Fault.not_isSound (fault : draft.Fault plugin error) : ¬ draft.IsSound := by
  intro sound
  cases fault with
  | pattern refused =>
    obtain ⟨program, compiled⟩ := sound.isRegex
    exact absurd (compiled.symm.trans refused) nofun
  | restriction _ given bad => exact bad (sound.isName _ given)

omit [RegexEngine] in
/-- Whether the restriction, if any, can be a namespace. -/
theorem filter_restriction_eq_none_iff :
    draft.restriction.filter (!Space.isValid ·) = none ↔
      ∀ space ∈ draft.restriction, Space.IsName space := by
  simp [Option.filter_eq_none_iff, Space.isValid_iff, Space.IsName]

omit [RegexEngine] in
theorem filter_restriction_eq_some_iff {space : String} :
    draft.restriction.filter (!Space.isValid ·) = some space ↔
      draft.restriction = some space ∧ ¬ Space.IsName space := by
  simp [Option.filter_eq_some_iff, ← Bool.not_eq_true, Space.isValid_iff, Space.IsName]

/-- What is built is the draft with its pattern compiled. -/
theorem build_eq_ok_iff : draft.build plugin = .ok rule ↔ draft.IsSound ∧ rule.draft = draft := by
  obtain ⟨pattern, restriction, handler⟩ := draft
  constructor
  · intro built
    unfold build at built
    split at built
    next => cases built
    next filter compiled =>
      split at built
      next => cases built
      next fine =>
        obtain rfl := Except.ok.inj built
        obtain rfl : filter.source = pattern := Filter.ofPattern_eq_ok_iff.mp compiled
        exact ⟨⟨⟨_, filter.compile_source⟩, filter_restriction_eq_none_iff.mp fine⟩, rfl⟩
  · rintro ⟨sound, same⟩
    obtain ⟨filter, restriction', handler'⟩ := rule
    obtain ⟨rfl, rfl, rfl⟩ := RuleDraft.mk.inj same
    have compiled := Filter.ofPattern_eq_ok_iff.mpr (rfl : filter.source = filter.source)
    have fine := filter_restriction_eq_none_iff.mpr sound.isName
    simp only [build, compiled, fine]

theorem build_eq_error_iff : draft.build plugin = .error error ↔ draft.Fault plugin error := by
  constructor
  · intro failed
    unfold build at failed
    split at failed
    next uncompiled =>
      obtain rfl := Except.error.inj failed
      exact .pattern (Filter.ofPattern_eq_error_iff.mp uncompiled)
    next filter compiled =>
      split at failed
      next space refused =>
        obtain rfl := Except.error.inj failed
        obtain ⟨given, bad⟩ := filter_restriction_eq_some_iff.mp refused
        have source := Filter.ofPattern_eq_ok_iff.mp compiled
        exact .restriction (source ▸ filter.compile_source) given bad
      next => cases failed
  · intro fault
    cases fault with
    | pattern refused => simp only [build, Filter.ofPattern_eq_error_iff.mpr refused]
    | restriction compiled given bad =>
      have refused := filter_restriction_eq_some_iff.mpr ⟨given, bad⟩
      have filtered := Filter.ofPattern_eq_ok_iff.mpr
        (rfl : (Filter.mk draft.pattern _ compiled).source = draft.pattern)
      simp only [build, filtered, refused]

theorem exists_build_iff : (∃ rule, draft.build plugin = .ok rule) ↔ draft.IsSound := by
  apply Decoder.exists_ok_iff_of_cases
  · intro rule built
    exact (build_eq_ok_iff.mp built).1
  · intro error failed
    exact (build_eq_error_iff.mp failed).not_isSound

end RuleDraft

namespace PluginDraft

/-! ## Lists of rules -/

section Rules

variable {plugin : String} {drafts : List (RuleDraft m ρ α)} {rules : List (Rule m ρ α)}
  {error : PluginError}

/-- The first rule that is not sound has this fault. -/
def FirstFault (plugin : String) (drafts : List (RuleDraft m ρ α)) (error : PluginError) : Prop :=
  ∃ before draft after, drafts = before ++ draft :: after ∧ (∀ d ∈ before, d.IsSound) ∧
    draft.Fault plugin error

theorem FirstFault.exists_complaint (first : FirstFault plugin drafts error) :
    ∃ rule ∈ drafts, rule.Complaint plugin error.message := by
  obtain ⟨_, rule, _, rfl, _, fault⟩ := first
  exact ⟨rule, by simp, fault.complaint⟩

theorem FirstFault.exists_not_isSound (first : FirstFault plugin drafts error) :
    ∃ rule ∈ drafts, ¬ rule.IsSound := by
  obtain ⟨_, rule, _, rfl, _, fault⟩ := first
  exact ⟨rule, by simp, fault.not_isSound⟩

theorem buildRules_eq_ok_iff :
    buildRules plugin drafts = .ok rules ↔
      (∀ d ∈ drafts, d.IsSound) ∧ rules.map Rule.draft = drafts := by
  induction drafts generalizing rules with
  | nil => simp [buildRules, @eq_comm _ [] rules]
  | cons draft rest ih =>
    rw [buildRules, Decoder.bind_eq_ok_iff, List.forall_mem_cons]
    constructor
    · rintro ⟨rule, here, remaining⟩
      obtain ⟨more, there, ⟨⟩⟩ := Decoder.bind_eq_ok_iff.mp remaining
      obtain ⟨sound, rfl⟩ := RuleDraft.build_eq_ok_iff.mp here
      obtain ⟨later, rfl⟩ := ih.mp there
      exact ⟨⟨sound, later⟩, rfl⟩
    · rintro ⟨⟨sound, later⟩, same⟩
      obtain ⟨rule, more, rfl, here, there⟩ := List.map_eq_cons_iff.mp same
      refine ⟨rule, RuleDraft.build_eq_ok_iff.mpr ⟨sound, here⟩, ?_⟩
      exact Decoder.bind_eq_ok_iff.mpr ⟨more, ih.mpr ⟨later, there⟩, rfl⟩

theorem firstFault_cons_iff {draft : RuleDraft m ρ α} :
    FirstFault plugin (draft :: drafts) error ↔
      draft.Fault plugin error ∨ draft.IsSound ∧ FirstFault plugin drafts error := by
  constructor
  · rintro ⟨before, faulty, after, split, sound, fault⟩
    cases before with
    | nil =>
      obtain ⟨rfl, rfl⟩ := List.cons.inj split
      exact .inl fault
    | cons first before =>
      obtain ⟨rfl, rfl⟩ := List.cons.inj split
      obtain ⟨here, sound⟩ := List.forall_mem_cons.mp sound
      exact .inr ⟨here, before, faulty, after, rfl, sound, fault⟩
  · rintro (fault | ⟨here, before, faulty, after, rfl, sound, fault⟩)
    · exact ⟨[], draft, drafts, rfl, List.forall_mem_nil _, fault⟩
    · exact ⟨draft :: before, faulty, after, rfl, List.forall_mem_cons.mpr ⟨here, sound⟩, fault⟩

/-- The first rule that is not sound decides what is reported. -/
theorem buildRules_eq_error_iff :
    buildRules plugin drafts = .error error ↔ FirstFault plugin drafts error := by
  induction drafts with
  | nil => simp [buildRules, FirstFault]
  | cons draft rest ih =>
    -- Building the rule succeeds or fails, and its list is made without a further failure.
    have made (rule : Rule m ρ α) :
        (buildRules plugin rest >>= fun rules => .ok (rule :: rules)) = .error error ↔
          FirstFault plugin rest error := by
      simp [Decoder.bind_eq_error_iff, ih]
    simp only [buildRules, Decoder.bind_eq_error_iff, made, firstFault_cons_iff,
      RuleDraft.build_eq_error_iff, exists_and_right, RuleDraft.exists_build_iff]

theorem exists_buildRules_iff :
    (∃ rules, buildRules plugin drafts = .ok rules) ↔ ∀ d ∈ drafts, d.IsSound := by
  apply Decoder.exists_ok_iff_of_cases
  · intro rules built
    exact (buildRules_eq_ok_iff.mp built).1
  · intro error failed sound
    obtain ⟨draft, mem, unsound⟩ := (buildRules_eq_error_iff.mp failed).exists_not_isSound
    exact unsound (sound draft mem)

end Rules

end PluginDraft

/-! ## Plugins -/

/-- The draft of which the plugin could have been built. -/
def Plugin.draft (plugin : Plugin m) : PluginDraft m where
  name := plugin.name
  onStart := plugin.onStart
  onEnd := plugin.onEnd
  resolveRules := plugin.resolveRules.map Rule.draft
  loadRules := plugin.loadRules.map Rule.draft

namespace PluginDraft

variable {draft : PluginDraft m} {plugin : Plugin m} {error : PluginError}

/-- Something is left of the name when white space is trimmed, and all rules are sound. -/
structure IsSound (draft : PluginDraft m) : Prop where
  named : Text.trim draft.name ≠ ""
  resolveRules : ∀ rule ∈ draft.resolveRules, rule.IsSound
  loadRules : ∀ rule ∈ draft.loadRules, rule.IsSound

/-- What is wrong with a draft first: its name, then a resolve rule, then a load rule. -/
inductive Fault (draft : PluginDraft m) : PluginError → Prop
  | name : Text.trim draft.name = "" → Fault draft .emptyName
  | resolveRule {error : PluginError} : Text.trim draft.name ≠ "" →
      FirstFault draft.name draft.resolveRules error → Fault draft error
  | loadRule {error : PluginError} : Text.trim draft.name ≠ "" →
      (∀ rule ∈ draft.resolveRules, rule.IsSound) →
        FirstFault draft.name draft.loadRules error → Fault draft error

/-- What can be said of a draft: that it has no name, or something of one of its rules. -/
inductive Complaint (draft : PluginDraft m) : String → Prop
  | name : Text.trim draft.name = "" → Complaint draft "plugin name cannot be empty"
  | resolveRule {message : String} :
      (∃ rule ∈ draft.resolveRules, rule.Complaint draft.name message) → Complaint draft message
  | loadRule {message : String} :
      (∃ rule ∈ draft.loadRules, rule.Complaint draft.name message) → Complaint draft message

theorem Fault.complaint (fault : draft.Fault error) : draft.Complaint error.message := by
  cases fault with
  | name blank => exact .name blank
  | resolveRule _ first => exact .resolveRule first.exists_complaint
  | loadRule _ _ first => exact .loadRule first.exists_complaint

theorem Fault.not_isSound (fault : draft.Fault error) : ¬ draft.IsSound := by
  intro sound
  cases fault with
  | name blank => exact sound.named blank
  | resolveRule _ first =>
    obtain ⟨rule, mem, unsound⟩ := first.exists_not_isSound
    exact unsound (sound.resolveRules rule mem)
  | loadRule _ _ first =>
    obtain ⟨rule, mem, unsound⟩ := first.exists_not_isSound
    exact unsound (sound.loadRules rule mem)

theorem build_of_named (named : Text.trim draft.name ≠ "") :
    draft.build = (do
      let resolveRules ← buildRules draft.name draft.resolveRules
      let loadRules ← buildRules draft.name draft.loadRules
      .ok ⟨draft.name, draft.onStart, draft.onEnd, resolveRules, loadRules⟩) := by
  unfold build
  exact if_neg (mt Text.trim_eq_empty_iff.mpr named)

theorem build_of_unnamed (blank : Text.trim draft.name = "") :
    draft.build = .error .emptyName := by
  unfold build
  exact if_pos (Text.trim_eq_empty_iff.mp blank)

/-- What is built is the draft with its patterns compiled. -/
theorem build_eq_ok_iff : draft.build = .ok plugin ↔ draft.IsSound ∧ plugin.draft = draft := by
  by_cases named : Text.trim draft.name = ""
  · rw [build_of_unnamed named]
    exact ⟨nofun, fun sound => absurd named sound.1.named⟩
  · rw [build_of_named named, Decoder.bind_eq_ok_iff]
    constructor
    · rintro ⟨resolveRules, resolving, remaining⟩
      obtain ⟨loadRules, loading, ⟨⟩⟩ := Decoder.bind_eq_ok_iff.mp remaining
      obtain ⟨resolve, resolveEq⟩ := buildRules_eq_ok_iff.mp resolving
      obtain ⟨load, loadEq⟩ := buildRules_eq_ok_iff.mp loading
      exact ⟨⟨named, resolve, load⟩, by simp only [Plugin.draft, resolveEq, loadEq]⟩
    · rintro ⟨sound, rfl⟩
      have resolving : buildRules plugin.name plugin.draft.resolveRules = .ok plugin.resolveRules :=
        buildRules_eq_ok_iff.mpr ⟨sound.resolveRules, rfl⟩
      have loading : buildRules plugin.name plugin.draft.loadRules = .ok plugin.loadRules :=
        buildRules_eq_ok_iff.mpr ⟨sound.loadRules, rfl⟩
      exact ⟨_, resolving, Decoder.bind_eq_ok_iff.mpr ⟨_, loading, rfl⟩⟩

theorem build_eq_error_iff : draft.build = .error error ↔ draft.Fault error := by
  by_cases named : Text.trim draft.name = ""
  · rw [build_of_unnamed named]
    constructor
    · rintro ⟨⟩
      exact .name named
    · intro fault
      cases fault with
      | name => rfl
      | resolveRule named' => exact absurd named named'
      | loadRule named' => exact absurd named named'
  · rw [build_of_named named]
    constructor
    · intro failed
      obtain first | ⟨_, resolving, remaining⟩ := Decoder.bind_eq_error_iff.mp failed
      · exact .resolveRule named (buildRules_eq_error_iff.mp first)
      · obtain first | ⟨_, _, ⟨⟩⟩ := Decoder.bind_eq_error_iff.mp remaining
        exact .loadRule named (buildRules_eq_ok_iff.mp resolving).1
          (buildRules_eq_error_iff.mp first)
    · intro fault
      cases fault with
      | name blank => exact absurd blank named
      | resolveRule _ first =>
        exact Decoder.bind_eq_error_iff.mpr (.inl (buildRules_eq_error_iff.mpr first))
      | loadRule _ sound first =>
        obtain ⟨rules, resolving⟩ := exists_buildRules_iff.mpr sound
        have loading := buildRules_eq_error_iff.mpr first
        exact Decoder.bind_eq_error_iff.mpr
          (.inr ⟨rules, resolving, Decoder.bind_eq_error_iff.mpr (.inl loading)⟩)

theorem exists_build_iff : (∃ plugin, draft.build = .ok plugin) ↔ draft.IsSound := by
  apply Decoder.exists_ok_iff_of_cases
  · intro plugin built
    exact (build_eq_ok_iff.mp built).1
  · intro error failed
    exact (build_eq_error_iff.mp failed).not_isSound

/-! ## Registrations -/

/-- A call that adds something to a plugin in the making. -/
inductive Registration (m : Type → Type) where
  | onStart (callback : Handler m Unit Unit)
  | onEnd (callback : Handler m EndReport Unit)
  | resolveRule (rule : RuleDraft m ResolveRequest ResolveAnswer)
  | loadRule (rule : RuleDraft m LoadRequest LoadAnswer)

namespace Registration

def onStart? : Registration m → Option (Handler m Unit Unit)
  | .onStart callback => some callback
  | _ => none

def onEnd? : Registration m → Option (Handler m EndReport Unit)
  | .onEnd callback => some callback
  | _ => none

def resolveRule? : Registration m → Option (RuleDraft m ResolveRequest ResolveAnswer)
  | .resolveRule rule => some rule
  | _ => none

def loadRule? : Registration m → Option (RuleDraft m LoadRequest LoadAnswer)
  | .loadRule rule => some rule
  | _ => none

end Registration

def register (draft : PluginDraft m) : Registration m → PluginDraft m
  | .onStart callback => draft.setOnStart callback
  | .onEnd callback => draft.setOnEnd callback
  | .resolveRule rule => draft.addResolve rule.pattern rule.restriction rule.handler
  | .loadRule rule => draft.addLoad rule.pattern rule.restriction rule.handler

/-- The draft of a plugin after any calls, one after the other. -/
def registerAll (name : String) (calls : List (Registration m)) : PluginDraft m :=
  calls.foldl register { name }

/-- The rules that were added in their order, and of each callback the one that was set last. -/
def gathered (name : String) (calls : List (Registration m)) : PluginDraft m where
  name
  onStart := (calls.filterMap Registration.onStart?).getLast?
  onEnd := (calls.filterMap Registration.onEnd?).getLast?
  resolveRules := calls.filterMap Registration.resolveRule?
  loadRules := calls.filterMap Registration.loadRule?

omit [RegexEngine] in
/-- One call more. -/
theorem register_gathered (name : String) (calls : List (Registration m)) (call : Registration m) :
    (gathered name calls).register call = gathered name (calls ++ [call]) := by
  cases call <;>
    simp [gathered, register, setOnStart, setOnEnd, addResolve, addLoad, Registration.onStart?,
      Registration.onEnd?, Registration.resolveRule?, Registration.loadRule?]

omit [RegexEngine] in
theorem registerAll_eq_gathered (name : String) (calls : List (Registration m)) :
    registerAll name calls = gathered name calls := by
  induction calls using List.reverseRecOn with
  | nil => rfl
  | append_singleton calls call ih =>
    rw [← register_gathered, ← ih, registerAll, List.foldl_append]
    rfl

/-- What is built after any calls. -/
structure BuiltAsRegistered (name : String) (calls : List (Registration m)) : Prop where
  /-- Whether a plugin is built. -/
  built_iff : (∃ plugin, (registerAll name calls).build = .ok plugin) ↔
    (gathered name calls).IsSound
  /-- The plugin has what was registered, unchanged and in this order. -/
  draft_eq (plugin : Plugin m) :
    (registerAll name calls).build = .ok plugin → plugin.draft = gathered name calls
  /-- Which failure is reported, and when. -/
  failed_iff (error : PluginError) :
    (registerAll name calls).build = .error error ↔ (gathered name calls).Fault error
  /-- Its message names the plugin and the text at fault. -/
  complains (error : PluginError) :
    (registerAll name calls).build = .error error →
      (gathered name calls).Complaint error.message

theorem built_as_registered (name : String) (calls : List (Registration m)) :
    BuiltAsRegistered name calls where
  built_iff := by rw [registerAll_eq_gathered, exists_build_iff]
  draft_eq plugin built := by
    rw [registerAll_eq_gathered] at built
    exact (build_eq_ok_iff.mp built).2
  failed_iff error := by rw [registerAll_eq_gathered, build_eq_error_iff]
  complains error failed := by
    rw [registerAll_eq_gathered] at failed
    exact (build_eq_error_iff.mp failed).complaint

end PluginDraft

end BundleHost
