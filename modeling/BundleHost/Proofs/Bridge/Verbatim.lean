import BundleHost.Proofs.Bridge.Identity
import BundleHost.Proofs.Bridge.Precedence

/-!
# How answers of plugins are followed

What the first rule that fits answers is what the engine gets, whoever asks and from wherever. The
module stays outside the output if the answer says so, and its identifier is read off the path and
the namespace of the answer and the directory of the importing module. Whether it has side effects
is passed on for modules inside the output only; what a plugin says of one outside is dropped.

## Main statements

* `named_iff` — the identifiers of answers, case by case.
* `answer_followed` — what the engine gets for an answer of the first rule that fits.
* `side_effects_dropped` — an answer about a module outside whose side effects are dropped.
-/

namespace BundleHost

/-- The identifier of what an answer leads to, for a specifier in a module whose directory may be
known. -/
inductive ResolveAnswer.Named (answer : ResolveAnswer) (specifier : String) :
    Option String → String → Prop
  /-- Outside the output, as the specifier was written. -/
  | written {dir : Option String} (external : answer.external = true) (empty : answer.path = "") :
      Named answer specifier dir specifier
  /-- Outside the output, as the plugin says. -/
  | replaced {dir : Option String} (external : answer.external = true) (given : answer.path ≠ "") :
      Named answer specifier dir answer.path
  /-- In a namespace other than that of files. -/
  | elsewhere {dir : Option String} (internal : answer.external = false)
      (outside : answer.targetSpace ≠ "file") :
      Named answer specifier dir ("\x00" ++ answer.targetSpace ++ ":" ++ answer.path)
  | absolute {dir : Option String} (internal : answer.external = false)
      (file : answer.targetSpace = "file") (absolute : Path.isAbsolute answer.path = true) :
      Named answer specifier dir answer.path
  /-- A file that there is no directory for. -/
  | unplaced (internal : answer.external = false) (file : answer.targetSpace = "file") :
      Named answer specifier none answer.path
  | relative {dir : String} (internal : answer.external = false)
      (file : answer.targetSpace = "file") (relative : Path.isAbsolute answer.path = false) :
      Named answer specifier (some dir) (Path.clean (Path.join dir answer.path))

variable {answer : ResolveAnswer} {specifier id : String} {dir : Option String}

theorem ModuleRef.toId_of_outside {ref : ModuleRef} (outside : Space.isFile ref.space = false) :
    ref.toId = "\x00" ++ ref.space ++ ":" ++ ref.path := by
  refine String.toList_injective ?_
  simp [toId, outside, mark, separator]

namespace ResolveAnswer

theorem target_of_external (external : answer.external = true) (specifier : String)
    (dir : Option String) : answer.target specifier dir =
      ⟨if answer.path.isEmpty then specifier else answer.path, true, none⟩ := by
  simp only [target, external, if_true]

theorem isFile_targetSpace_iff (valid : ∀ space ∈ answer.space, Space.isValid space = true) :
    Space.isFile answer.targetSpace = true ↔ answer.targetSpace = "file" := by
  rw [Space.isFile_iff]
  refine or_iff_right ?_
  cases named : answer.space with
  | none => simp [targetSpace, named, Space.file]
  | some space =>
    simpa [targetSpace, named] using (Space.isValid_iff.mp (valid space named)).1

variable (valid : ∀ space ∈ answer.space, Space.isValid space = true)
include valid

theorem isFile_eq_false_of_ne (outside : answer.targetSpace ≠ "file") :
    Space.isFile answer.targetSpace = false :=
  Bool.eq_false_iff.mpr (mt (isFile_targetSpace_iff valid).mp outside)

theorem named_target (specifier : String) (dir : Option String) :
    answer.Named specifier dir (answer.target specifier dir).id := by
  cases external : answer.external with
  | true =>
    rw [target_of_external external]
    by_cases empty : answer.path = ""
    · simpa [empty] using Named.written external empty
    · simpa [empty] using Named.replaced external empty
  | false =>
    by_cases file : answer.targetSpace = "file"
    · rw [Bridge.target_of_file _ _ external file]
      cases dir with
      | none => exact .unplaced external file
      | some base =>
        by_cases absolute : Path.isAbsolute answer.path = true
        · simpa [filePath, absolute] using Named.absolute external file absolute
        · simpa [filePath, absolute] using
            Named.relative external file (Bool.eq_false_iff.mpr absolute)
    · have outside := isFile_eq_false_of_ne valid file
      rw [Bridge.target_of_outside _ _ external outside, ModuleRef.toId_of_outside outside]
      exact .elsewhere external file

theorem Named.target_eq (named : answer.Named specifier dir id) :
    (answer.target specifier dir).id = id := by
  cases named with
  | written external empty => simp [target_of_external external, empty]
  | replaced external given => simp [target_of_external external, given]
  | elsewhere internal outside =>
    have outside := isFile_eq_false_of_ne valid outside
    rw [Bridge.target_of_outside _ _ internal outside]
    exact ModuleRef.toId_of_outside outside
  | absolute internal file absolute =>
    rw [Bridge.target_of_file _ _ internal file]
    cases dir <;> simp [filePath, absolute]
  | unplaced internal file => rw [Bridge.target_of_file _ _ internal file, filePath]
  | relative internal file relative =>
    simp [Bridge.target_of_file _ _ internal file, filePath, relative]

/-- Every answer whose namespace can be one has just one identifier. -/
theorem named_iff : answer.Named specifier dir id ↔ (answer.target specifier dir).id = id := by
  constructor
  · exact Named.target_eq valid
  · rintro rfl
    exact named_target valid specifier dir

end ResolveAnswer

namespace Bridge

section AnyEngine

variable [RegexEngine] {World : Type} {bridge : Bridge (StateM World)} {question : Question}
  {state : BridgeState} {w w' : World}

/-- What the handler of the first rule that fits answers is what the plugins answer. -/
theorem answers_of_called {plugin : String}
    {rule : Rule (StateM World) ResolveRequest ResolveAnswer} (foreign : ¬ question.IsSource)
    (first : Dispatch.First Plugin.resolveRules bridge.plugins (bridge.request question state)
      plugin rule)
    (answered : StateT.run (rule.handler (bridge.request question state)) w = (.ok answer, w'))
    (valid : ∀ space ∈ answer.space, Space.isValid space = true) :
    bridge.Answers question state w answer := by
  refine ⟨foreign, plugin, w', ?_⟩
  rw [Dispatch.resolve_of_first first, StateT.run_map, answered]
  exact congrArg (·, w') (Dispatch.checkResolve_of_valid plugin valid)

/-- The engine gets what the first rule that fits answers: outside or inside the output as it says,
under the only identifier that it has. Its word on side effects goes through for a module inside,
and is dropped for one outside. -/
theorem answer_followed {plugin : String}
    {rule : Rule (StateM World) ResolveRequest ResolveAnswer} (foreign : ¬ question.IsSource)
    (first : Dispatch.First Plugin.resolveRules bridge.plugins (bridge.request question state)
      plugin rule)
    (answered : StateT.run (rule.handler (bridge.request question state)) w = (.ok answer, w'))
    (valid : ∀ space ∈ answer.space, Space.isValid space = true) :
    ∃ resolved, bridge.route question state w = .found resolved ∧
      resolved.external = answer.external ∧
      (∀ id, answer.Named question.specifier (bridge.dir question state) id ↔ resolved.id = id) ∧
      (answer.external = false → resolved.sideEffects = answer.sideEffects) ∧
      (answer.external = true → resolved.sideEffects = none) := by
  refine ⟨_, (answers_of_called foreign first answered valid).route_eq,
    ResolveAnswer.external_target answer _ _, fun id => ResolveAnswer.named_iff valid, ?_, ?_⟩
  · intro internal
    simp [ResolveAnswer.target, internal]
  · intro external
    rw [ResolveAnswer.target_of_external external]

end AnyEngine

/-- The plugin that gives every specifier the same answer has one rule, which fits every request. -/
theorem first_leadingTo (answer : ResolveAnswer) (request : ResolveRequest) :
    Dispatch.First Plugin.resolveRules (leadingTo answer).plugins request "web"
      ⟨Filter.everything, none, fun _ => pure (.ok answer)⟩ :=
  ⟨[], [], rfl, ⟨rfl, Filter.occursIn_everything request.specifier⟩, List.forall_mem_nil _⟩

/-- A file beside the importing module, without side effects. -/
theorem answer_followed_relative :
    let answer : ResolveAnswer := { path := "./b.js", sideEffects := some false }
    ∃ resolved, (leadingTo answer).route ⟨"a", some "/src/a.js", .importStatement⟩ {} () =
        .found resolved ∧
      resolved.id = Path.clean (Path.join "/src" "./b.js") ∧ resolved.external = false ∧
      resolved.sideEffects = some false := by
  intro answer
  let question : Question := ⟨"a", some "/src/a.js", .importStatement⟩
  have foreign : ¬ question.IsSource := by simp [Question.IsSource, question]
  have fits := first_leadingTo answer ((leadingTo answer).request question {})
  have valid : ∀ space ∈ answer.space, Space.isValid space = true := by simp [answer]
  have beside : answer.Named "a" (some "/src") (Path.clean (Path.join "/src" "./b.js")) :=
    .relative rfl rfl (by decide)
  obtain ⟨resolved, route, external, named, inside, -⟩ := answer_followed foreign fits rfl valid
  exact ⟨resolved, route, (named _).mp beside, external, inside rfl⟩

/-- An answer about a module outside that says that it has no side effects. -/
theorem side_effects_dropped :
    (leadingTo { external := true, sideEffects := some false }).Answers
        ⟨"react", some ModuleRef.sourceId, .importStatement⟩ {} ()
        { external := true, sideEffects := some false } ∧
      (leadingTo { external := true, sideEffects := some false }).route
        ⟨"react", some ModuleRef.sourceId, .importStatement⟩ {} () =
          .found ⟨"react", true, none⟩ :=
  ⟨⟨by simp [Question.IsSource], "web", (), rfl⟩, rfl⟩

end Bridge

end BundleHost
