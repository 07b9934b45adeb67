import BundleHost.Proofs.Bridge.History
import BundleHost.Proofs.Bridge.Precedence

/-!
# The directory for the imports of a loaded module

A load may give a directory from which the imports of the module are to be resolved. Plugins are
told of it with each of these imports. The engine gets to know it only if the module lies on no
disk: what a file imports, and no plugin handles, is left to the engine, which takes it from where
the file lies.

## Main statements

* `dir_of_import` — what becomes of the directory that the latest load gave.
* `file_import_left` — a file whose load gave a directory that the engine never learns.
-/

namespace BundleHost.Bridge

section AnyEngine

variable [RegexEngine] {World : Type} {bridge : Bridge (StateM World)} {s s' : BridgeState}
  {w w' : World}

/-- The latest directory that loads of a module gave is the one that is looked up. -/
theorem Transcript.dirOf_eq {exchanges : List Exchange}
    (run : bridge.Transcript s w exchanges s' w') {id dir : String}
    (foreign : id ≠ ModuleRef.sourceId) (given : latestDir? exchanges id = some dir) :
    s'.dirOf bridge.entry id = some dir := by
  have kept : s'.moduleDirs.get? id = some dir := by
    rw [run.adds.dirs, given]
    rfl
  unfold BridgeState.dirOf
  rw [if_neg foreign, kept]

/-- An import by a module other than the source text, whose directory is known. If no plugin handles
it and it does not stay outside, the engine is sent to the directory only from a module that lies on
no disk. -/
theorem route_of_import {state : BridgeState} {question : Question} {id dir : String}
    (foreign : id ≠ ModuleRef.sourceId) (known : state.dirOf bridge.entry id = some dir)
    (imported : question.importer = some id) (silent : bridge.Unhandled question state)
    (inside : bridge.externals.isExternal question.specifier = false) :
    bridge.route question state w =
      if ModuleRef.isMarked id then .delegate (Path.join dir ModuleRef.sourceId) else .engine := by
  have asked : ¬ question.IsSource := by simp [Question.IsSource, imported]
  rw [route_of_unhandled asked silent, Bridge.dir, imported, Option.bind_some, known]
  unfold fallback
  simp [inside, foreign]

/-- An import of a module whose latest load gave a directory: plugins are asked with this
directory. If none handles the import and it does not stay outside, the engine is sent to the
directory if the module lies on no disk, and left to itself if it is a file. -/
theorem dir_of_import {exchanges : List Exchange}
    (run : bridge.Transcript s w exchanges s' w') {id dir : String}
    (foreign : id ≠ ModuleRef.sourceId) (given : latestDir? exchanges id = some dir)
    {question : Question} (imported : question.importer = some id) :
    (bridge.request question s').resolveDir = some dir ∧
      (bridge.Unhandled question s' → bridge.externals.isExternal question.specifier = false →
        bridge.route question s' w' =
          if ModuleRef.isMarked id then .delegate (Path.join dir ModuleRef.sourceId)
          else .engine) := by
  have known := run.dirOf_eq foreign given
  constructor
  · simp only [request, resolveRequest, imported, known]
  · exact route_of_import foreign known imported

end AnyEngine

/-! ## Modules that a plugin makes up -/

/-- A rule that makes up every module and gives it the directory `/gen`. -/
def generatingRule : Rule (StateM Unit) LoadRequest LoadAnswer :=
  ⟨.everything, none, fun _ => pure (.ok { contents := "", resolveDir := some "/gen" })⟩

theorem generatingRule_matches (request : LoadRequest) : generatingRule.matches request = true := by
  simp [Rule.matches, generatingRule, Space.admits]

def generatingBridge : Bridge (StateM Unit) :=
  ⟨[⟨"gen", none, none, [], [generatingRule]⟩], ⟨"text", .js, "/"⟩, {}⟩

theorem generatingBridge_unhandled (question : Question) (state : BridgeState) :
    generatingBridge.Unhandled question state := nofun

/-- A load of a module other than the source text is a run that gives the directory. -/
theorem generatingBridge_transcript {id : String} (foreign : id ≠ ModuleRef.sourceId) :
    ∃ exchanges state, generatingBridge.Transcript {} () exchanges state () ∧
      exchanges.map Exchange.call = [.load id] ∧ latestDir? exchanges id = some "/gen" := by
  let answer : LoadAnswer := { contents := "", resolveDir := some "/gen" }
  have consulted : StateT.run (generatingBridge.consultLoad id) () =
      (.ok (.handled "gen" answer), ()) := by
    rw [consultLoad, if_neg foreign]
    simp only [Dispatch.load, Dispatch.claim?, generatingBridge, List.findSome?_cons,
      List.find?_cons, generatingRule_matches, Option.map_some]
    rfl
  have step := Step.load consulted (run_load_of_consulted (s := {}) foreign consulted)
  exact ⟨_, _, .cons step (.nil _ _), rfl, by simp [latestDir?, Exchange.dir?, answer]⟩

/-- From a module on no disk the engine is sent to the directory. -/
theorem dir_of_import_generated :
    let id := "\x00b:c"
    let question : Question := ⟨"./x", some id, .importStatement⟩
    ∃ exchanges state, generatingBridge.Transcript {} () exchanges state () ∧
      exchanges.map Exchange.call = [.load id] ∧ latestDir? exchanges id = some "/gen" ∧
      (generatingBridge.request question state).resolveDir = some "/gen" ∧
      generatingBridge.route question state () = .delegate "/gen/<stdin>" := by
  intro id question
  have foreign : id ≠ ModuleRef.sourceId := by decide
  obtain ⟨exchanges, state, run, called, given⟩ := generatingBridge_transcript foreign
  have imported : question.importer = some id := rfl
  obtain ⟨asked, sent⟩ := dir_of_import run foreign given imported
  exact ⟨exchanges, state, run, called, given, asked,
    (sent (generatingBridge_unhandled question state) rfl).trans (if_pos (by decide))⟩

/-- A file that a plugin made up and gave a directory: plugins are told of the directory when the
file imports something, and the engine is not sent there. -/
theorem file_import_left :
    let id := "/src/app.js"
    let question : Question := ⟨"./x", some id, .importStatement⟩
    ∃ exchanges state, generatingBridge.Transcript {} () exchanges state () ∧
      exchanges.map Exchange.call = [.load id] ∧ latestDir? exchanges id = some "/gen" ∧
      generatingBridge.Unhandled question state ∧
      generatingBridge.externals.isExternal question.specifier = false ∧
      (generatingBridge.request question state).resolveDir = some "/gen" ∧
      generatingBridge.route question state () ≠ .delegate (Path.join "/gen" ModuleRef.sourceId) ∧
      generatingBridge.route question state () = .engine := by
  intro id question
  have foreign : id ≠ ModuleRef.sourceId := by decide
  obtain ⟨exchanges, state, run, called, given⟩ := generatingBridge_transcript foreign
  have silent := generatingBridge_unhandled question state
  have known := run.dirOf_eq foreign given
  have left : generatingBridge.route question state () = .engine :=
    (route_of_import foreign known rfl silent rfl).trans (if_neg (by decide))
  refine ⟨exchanges, state, run, called, given, silent, rfl, known, ?_, left⟩
  rw [left]
  exact nofun

end BundleHost.Bridge
