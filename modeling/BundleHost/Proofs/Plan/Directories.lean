import BundleHost.Proofs.Bridge.Identity
import BundleHost.Proofs.Path.Walk
import BundleHost.Proofs.Plan.Reading

/-!
# The directories of a build

A build runs in a directory that is taken from that of the process, and the imports of the source
text are resolved from one that is taken from there. Whatever texts are given for them, both are
known by the names that lead to them from the root, and so is every file on a relative path that a
plugin finds for such an import. Two paths to one file do not make two modules of it.

## Main statements

* `Plan.exists_forBuild_iff` — when a build has a plan.
* `Bridge.FindsAside.route_of_internal` — where a relative path leads.
* `Plan.directories_of_build` — the directories of a build and what is found from there.
-/

namespace BundleHost

open BundleHost.Path (IsDirect)

/-! ## Directories that may be given -/

namespace Plan

/-- Where a directory lies that may be given. -/
def ledTo (base : List String) (given : Option String) : List String :=
  given.elim base (Path.walk base)

theorem isDirect_directory {base : String} {names : List String} (h : IsDirect base names)
    (given : Option String) : IsDirect (directory base given) (ledTo names given) := by
  cases given with
  | none => exact h
  | some dir => exact h.clean_join dir

end Plan

section AnyEngine

variable [RegexEngine]

/-! ## Files to inject -/

theorem exists_injectFile_iff {disk : Disk} {path : String} :
    (∃ names, injectFile disk path = .ok names) ↔ ∃ text, disk.readText path = .ok text := by
  unfold injectFile
  cases disk.readText path <;> simp

theorem exists_injectFiles_iff {disk : Disk} {paths : List String} :
    (∃ names, injectFiles disk paths = .ok names) ↔
      ∀ path ∈ paths, ∃ text, disk.readText path = .ok text := by
  induction paths with
  | nil => simp [injectFiles]
  | cons path rest ih =>
    rw [List.forall_mem_cons, ← ih, ← exists_injectFile_iff]
    constructor
    · rintro ⟨all, read⟩
      obtain ⟨names, first, read⟩ := Decoder.bind_eq_ok_iff.mp read
      obtain ⟨later, rest, -⟩ := Decoder.bind_eq_ok_iff.mp read
      exact ⟨⟨names, first⟩, later, rest⟩
    · rintro ⟨⟨names, first⟩, later, rest⟩
      refine ⟨names ++ later, ?_⟩
      rw [injectFiles, first, rest]
      rfl

/-- What is injected is known if all files can be read from the directory of the build. -/
theorem BuildSettings.exists_injections_iff {settings : BuildSettings} {disk : Disk}
    {cwd : String} :
    (∃ inject, settings.injections disk cwd = .ok inject) ↔
      ∀ file ∈ settings.inject, ∃ text, disk.readText (Path.join cwd file) = .ok text := by
  unfold injections
  split
  next empty => simp [List.isEmpty_iff.mp empty]
  next =>
    rw [Decoder.exists_map_eq_ok_iff, exists_injectFiles_iff, List.forall_mem_map]

/-! ## Relative paths of plugins -/

namespace Bridge

variable {World : Type}

/-- A plugin finds a relative path on disk for an import of the source text. -/
structure FindsAside (bridge : Bridge (StateM World)) (question : Question) (state : BridgeState)
    (w : World) (answer : ResolveAnswer) : Prop where
  answers : bridge.Answers question state w answer
  imported : question.importer = some ModuleRef.sourceId
  file : answer.targetSpace = Space.file
  relative : Path.isAbsolute answer.path = false

namespace FindsAside

variable {bridge : Bridge (StateM World)} {question : Question} {state : BridgeState} {w : World}
  {answer : ResolveAnswer} (h : bridge.FindsAside question state w answer)
include h

/-- What the output leaves outside is imported as the plugin, or else the source text, has it. -/
theorem route_of_external (outside : answer.external = true) :
    bridge.route question state w =
      .found ⟨if answer.path.isEmpty then question.specifier else answer.path, true, none⟩ := by
  rw [h.answers.route_eq]
  simp [ResolveAnswer.target, outside]

/-- A relative path is taken from the directory of the source text. -/
theorem route_of_internal (inside : answer.external = false) :
    bridge.route question state w =
      .found ⟨Path.clean (Path.join bridge.entry.resolveDir answer.path), false,
        answer.sideEffects⟩ := by
  have dir : bridge.dir question state = some bridge.entry.resolveDir := by
    simp [Bridge.dir, BridgeState.dirOf, h.imported]
  rw [h.answers.route_eq, target_of_file _ _ inside h.file, dir, filePath, h.relative]
  rfl

end FindsAside

end Bridge

/-! ## The directories of a build -/

namespace Plan

theorem exists_forBuild_iff {site : RunSite} {settings : BuildSettings} :
    (∃ plan, forBuild site.processDir site.disk settings site.source = .ok plan) ↔
      ∀ file ∈ settings.inject,
        ∃ text, site.disk.readText (Path.join (buildDir site settings) file) = .ok text := by
  rw [forBuild_eq, Decoder.exists_map_eq_ok_iff, BuildSettings.exists_injections_iff]

/-- A build runs in a directory. -/
structure RunsIn (plan : Plan) (cwd resolveDir : List String) : Prop where
  cwd : IsDirect plan.options.cwd cwd
  resolveDir : IsDirect plan.entry.resolveDir resolveDir

/-- Relative paths on disk that plugins find for imports of the source text lead to files that are
known by their names from the root, and two such paths that are the same when cleaned lead to one
module. Only what is left outside the output is no module, and its path stays as it is. -/
def FindsFiles (plan : Plan) (resolveDir : List String) : Prop :=
  ∀ {World : Type} (bridge : Bridge (StateM World)) (question : Question) (state : BridgeState)
    (w : World) (answer : ResolveAnswer), bridge.entry = plan.entry →
      bridge.FindsAside question state w answer →
    (answer.external = true → bridge.route question state w =
      .found ⟨if answer.path.isEmpty then question.specifier else answer.path, true, none⟩) ∧
    (answer.external = false → ∃ id, IsDirect id (Path.walk resolveDir answer.path) ∧
      bridge.route question state w = .found ⟨id, false, answer.sideEffects⟩ ∧
      ∀ {World' : Type} (bridge' : Bridge (StateM World')) (question' : Question)
        (state' : BridgeState) (w' : World') (answer' : ResolveAnswer),
        bridge'.entry = plan.entry → bridge'.FindsAside question' state' w' answer' →
        answer'.external = false → Path.clean answer'.path = Path.clean answer.path →
          bridge'.route question' state' w' = .found ⟨id, false, answer'.sideEffects⟩)

theorem RunsIn.findsFiles {plan : Plan} {cwd resolveDir : List String}
    (h : plan.RunsIn cwd resolveDir) : plan.FindsFiles resolveDir := by
  intro World bridge question state w answer entry finds
  refine ⟨finds.route_of_external, fun inside => ?_⟩
  have direct := h.resolveDir.clean_join answer.path
  refine ⟨_, direct, entry ▸ finds.route_of_internal inside, ?_⟩
  intro World' bridge' question' state' w' answer' entry' finds' inside' same
  -- Where a path leads does not change when it is cleaned.
  have alike : Path.walk resolveDir answer'.path = Path.walk resolveDir answer.path := by
    rw [← Path.walk_clean, same, Path.walk_clean]
  have direct' := h.resolveDir.clean_join answer'.path
  rw [finds'.route_of_internal inside', entry', direct'.path_eq, alike, ← direct.path_eq]

/-- The directories of a build lie where the given texts lead, one taken from the other, and so do
the files that plugins find on relative paths. -/
theorem directories_of_build (site : RunSite) (settings : BuildSettings)
    (absolute : Path.isAbsolute site.processDir = true)
    (settled : Path.clean site.processDir = site.processDir) :
    ∃ start cwd resolveDir : List String,
      IsDirect site.processDir start ∧
      cwd = ledTo start (settings.explicit? .absWorkingDir) ∧
      resolveDir = ledTo cwd (settings.explicit? .resolveDir) ∧
      ((∃ plan, forBuild site.processDir site.disk settings site.source = .ok plan) ↔
        ∀ file ∈ settings.inject,
          ∃ text, site.disk.readText (Path.join (Path.ofNames cwd) file) = .ok text) ∧
      ∀ plan, forBuild site.processDir site.disk settings site.source = .ok plan →
        plan.RunsIn cwd resolveDir ∧ plan.FindsFiles resolveDir := by
  obtain ⟨start, process⟩ := Path.exists_isDirect_iff.mpr ⟨absolute, settled⟩
  have cwd := isDirect_directory process (settings.explicit? .absWorkingDir)
  have resolveDir := isDirect_directory cwd (settings.explicit? .resolveDir)
  refine ⟨start, _, _, process, rfl, rfl, ?_, ?_⟩
  · rw [exists_forBuild_iff, ← cwd.path_eq]
    rfl
  · intro plan planned
    rw [forBuild_eq] at planned
    obtain ⟨inject, -, rfl⟩ := Decoder.map_eq_ok_iff.mp planned
    have runs : (ofBuild site settings inject).RunsIn _ _ := ⟨cwd, resolveDir⟩
    exact ⟨runs, runs.findsFiles⟩

end Plan

end AnyEngine

/-- More steps up than there are directories, and a path with a step up behind a name. -/
theorem Plan.directories_of_build_above :
    let site : RunSite := ⟨"/srv/app", Disk.empty, "import 'y'"⟩
    let settings := (BuildSettings.assign {} .absWorkingDir "../web//./").assign .resolveDir
      "../../../lib/"
    let answer : ResolveAnswer := { path := "x/.././y" }
    let question : Question := ⟨"y", some ModuleRef.sourceId, .importStatement⟩
    Path.isAbsolute site.processDir = true ∧ Path.clean site.processDir = site.processDir ∧
      ∃ plan, forBuild site.processDir site.disk settings site.source = .ok plan ∧
        plan.RunsIn ["srv", "web"] ["lib"] ∧
        { Bridge.leadingTo answer with entry := plan.entry }.FindsAside question {} () answer ∧
        { Bridge.leadingTo answer with entry := plan.entry }.route question {} () =
          .found ⟨"/lib/y", false, none⟩ := by
  intro site settings answer question
  have absolute : Path.isAbsolute site.processDir = true := by decide
  have settled : Path.clean site.processDir = site.processDir := by decide +kernel
  obtain ⟨start, cwd, resolveDir, process, ranIn, resolvedIn, readable, directories⟩ :=
    directories_of_build site settings absolute settled
  have started : Path.walk [] site.processDir = ["srv", "app"] := by decide +kernel
  obtain rfl : start = ["srv", "app"] := (process.walk_eq []).symm.trans started
  obtain rfl : cwd = ["srv", "web"] := ranIn.trans (by decide +kernel)
  obtain rfl : resolveDir = ["lib"] := resolvedIn.trans (by decide +kernel)
  obtain ⟨plan, planned⟩ := readable.mpr (List.forall_mem_nil _)
  obtain ⟨runs, finds⟩ := directories plan planned
  have aside : { Bridge.leadingTo answer with entry := plan.entry }.FindsAside
      question {} () answer := by
    refine ⟨⟨by simp [question, Question.IsSource], "web", (), ?_⟩, rfl, rfl, by decide⟩
    simp [Dispatch.resolve, Dispatch.claim?, Bridge.leadingTo, Rule.matches,
      Space.admits, Dispatch.checkResolve, answer]
    rfl
  refine ⟨absolute, settled, plan, planned, runs, aside, ?_⟩
  obtain ⟨id, direct, route, -⟩ := (finds _ _ _ _ _ rfl aside).2 rfl
  have led : Path.ofNames (Path.walk ["lib"] answer.path) = "/lib/y" := by decide +kernel
  rw [route, direct.path_eq, led]

end BundleHost
