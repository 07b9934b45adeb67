import BundleHost.Proofs.Bridge.Answer
import BundleHost.Proofs.ModuleId
import BundleHost.Proofs.Path.Absolute

/-!
# Which module an identifier stands for

A module in a namespace of its own gets an identifier from which its namespace and its path are
read back wherever the engine uses it. A file goes by its path as the plugin gave it or as it was
cleaned; where that path is the identifier of the source text, or spells a module in another
namespace, the identifier stands for that other module. Absolute paths never do.

## Main statements

* `namespaced_module_survives` — modules in namespaces of their own.
* `file_module_identity` — exactly when a file is taken for itself, and for what otherwise.
-/

namespace BundleHost

/-- The module that an answer names. -/
def ResolveAnswer.ref (answer : ResolveAnswer) : ModuleRef := ⟨answer.targetSpace, answer.path⟩

/-- The path that a file gets in the engine. -/
def filePath (path : String) : Option String → String
  | some dir => if Path.isAbsolute path then path else Path.clean (Path.join dir path)
  | none => path

theorem isAbsolute_filePath {path : String} {dir : Option String}
    (h : Path.isAbsolute path = true ∨ ∃ base, dir = some base ∧ Path.isAbsolute base = true) :
    Path.isAbsolute (filePath path dir) = true := by
  by_cases absolute : Path.isAbsolute path = true
  · cases dir <;> simp [filePath, absolute]
  · obtain ⟨base, rfl, rooted⟩ := h.resolve_left absolute
    simp only [filePath, absolute, if_false, Bool.false_eq_true]
    exact Path.isAbsolute_clean (Path.isAbsolute_join rooted path)

namespace Bridge

section Targets

variable {answer : ResolveAnswer}

theorem target_of_outside (specifier : String) (dir : Option String)
    (internal : answer.external = false) (outside : Space.isFile answer.targetSpace = false) :
    answer.target specifier dir =
      ⟨answer.ref.toId, false, answer.sideEffects⟩ := by
  simp [ResolveAnswer.target, ResolveAnswer.ref, internal, outside]

theorem target_of_file (specifier : String) (dir : Option String)
    (internal : answer.external = false) (file : answer.targetSpace = Space.file) :
    answer.target specifier dir = ⟨filePath answer.path dir, false, answer.sideEffects⟩ := by
  have isFile : Space.isFile answer.targetSpace = true := Space.isFile_iff.mpr (.inr file)
  cases dir <;> simp [ResolveAnswer.target, internal, isFile, filePath]

end Targets

section AnyEngine

variable [RegexEngine] {World : Type} {bridge : Bridge (StateM World)} {question : Question}
  {state : BridgeState} {w : World} {answer : ResolveAnswer}

/-- A namespace that an answer names and that is not that of files can be one. -/
theorem Answers.isValid_targetSpace (h : bridge.Answers question state w answer)
    (outside : Space.isFile answer.targetSpace = false) :
    Space.isValid answer.targetSpace = true := by
  unfold ResolveAnswer.targetSpace at outside ⊢
  cases named : answer.space with
  | none => simp [named, Space.isFile] at outside
  | some space => exact h.isValid_space space named

/-! ## Modules in namespaces of their own -/

/-- A plugin leads the question to a module inside the output that is no file. -/
structure Leads (bridge : Bridge (StateM World)) (question : Question) (state : BridgeState)
    (w : World) (answer : ResolveAnswer) : Prop where
  answers : bridge.Answers question state w answer
  internal : answer.external = false
  outside : Space.isFile answer.targetSpace = false

theorem Leads.route_eq (h : bridge.Leads question state w answer) :
    bridge.route question state w = .found ⟨answer.ref.toId, false, answer.sideEffects⟩ := by
  rw [h.answers.route_eq, target_of_outside _ _ h.internal h.outside]

theorem Leads.isValid (h : bridge.Leads question state w answer) :
    Space.isValid answer.ref.space = true :=
  h.answers.isValid_targetSpace h.outside

/-- The identifier of a module that is no file is not that of the source text and no other
module's, and the plugins are asked about its contents and its imports by its own namespace and
path. -/
theorem namespaced_module_survives (h : bridge.Leads question state w answer) :
    ∃ id, bridge.route question state w = .found ⟨id, false, answer.sideEffects⟩ ∧
      id ≠ ModuleRef.sourceId ∧
      (∀ (other : Bridge (StateM World)) question' state' w' answer' resolved,
        other.Leads question' state' w' answer' →
          other.route question' state' w' = .found resolved → resolved.id = id →
            answer'.targetSpace = answer.targetSpace ∧ answer'.path = answer.path) ∧
      (∀ state', bridge.load id state' = do
        let result ← Dispatch.load bridge.plugins ⟨answer.path, answer.targetSpace⟩
        return settleLoad id result state') ∧
      ∀ specifier kind state', bridge.resolve specifier (some id) kind state' = do
        let result ← Dispatch.resolve bridge.plugins
          { specifier, kind, importer := some answer.path, space := answer.targetSpace
            resolveDir := state'.dirOf bridge.entry id }
        return bridge.settleResolve specifier (some id) result state' := by
  have spells := ModuleRef.spells_toId h.isValid h.outside
  refine ⟨answer.ref.toId, h.route_eq, spells.ne_sourceId, ?_, ?_, ?_⟩
  · rintro other question' state' w' answer' resolved h' found same
    rw [h'.route_eq, Route.found.injEq] at found
    subst found
    have equal := (ModuleRef.toId_inj h'.isValid h'.outside h.isValid h.outside).mp same
    exact ⟨congrArg ModuleRef.space equal, congrArg ModuleRef.path equal⟩
  · intro state'
    rw [load_of_ne_sourceId spells.ne_sourceId, spells.ofId_eq]
    rfl
  · intro specifier kind state'
    have imported : ¬ (Question.mk specifier (some answer.ref.toId) kind).IsSource := by
      simp [Question.IsSource]
    rw [resolve_of_not_isSource imported, request, resolveRequest, spells.ofId_eq]
    rfl

end AnyEngine

/-- A bridge to one plugin, which gives every specifier the same answer and has every module
contain its namespace and its path. -/
def leadingTo (answer : ResolveAnswer) : Bridge (StateM Unit) :=
  let plugin : Plugin (StateM Unit) := {
    name := "web", onStart := none, onEnd := none
    resolveRules := [⟨.everything, none, fun _ => pure (.ok answer)⟩]
    loadRules := [⟨.everything, none, fun request =>
      pure (.ok { contents := request.space ++ "|" ++ request.path })⟩] }
  ⟨[plugin], ⟨"text", .js, "/"⟩, {}⟩

/-- A path with colons in a namespace, and what the load rules are asked. -/
theorem namespaced_module_survives_colons :
    (leadingTo { path := "http://a:1", space := some "web" }).Leads
        ⟨"a", some ModuleRef.sourceId, .importStatement⟩ {} ()
        { path := "http://a:1", space := some "web" } ∧
      ∃ id, id ≠ ModuleRef.sourceId ∧
        StateT.run ((leadingTo { path := "http://a:1", space := some "web" }).load id {}) () =
          ((.contents "web|http://a:1" (.ofLoader .js), {}), ()) := by
  have leads : (leadingTo { path := "http://a:1", space := some "web" }).Leads
      ⟨"a", some ModuleRef.sourceId, .importStatement⟩ {} ()
      { path := "http://a:1", space := some "web" } :=
    ⟨⟨by simp [Question.IsSource], "web", (), rfl⟩, rfl, rfl⟩
  obtain ⟨id, -, reserved, -, loads, -⟩ := namespaced_module_survives leads
  refine ⟨leads, id, reserved, ?_⟩
  rw [loads]
  rfl

/-! ## Files -/

section Files

variable [RegexEngine] {World : Type} {bridge : Bridge (StateM World)} {question : Question}
  {state : BridgeState} {w : World} {answer : ResolveAnswer}

/-- The engine gets to know the file of that path under the identifier. -/
structure TakesForFile (bridge : Bridge (StateM World)) (id : String) : Prop where
  ofId_eq : ModuleRef.ofId id = ⟨Space.file, id⟩
  ne_sourceId : id ≠ ModuleRef.sourceId
  load_eq : ∀ state, bridge.load id state = do
    let result ← Dispatch.load bridge.plugins ⟨id, Space.file⟩
    return settleLoad id result state

theorem takesForFile_iff {id : String} :
    bridge.TakesForFile id ↔ id ≠ ModuleRef.sourceId ∧ ∀ ref, ¬ ModuleRef.Spells id ref := by
  constructor
  · intro taken
    exact ⟨taken.ne_sourceId, ModuleRef.ofId_eq_file_iff.mp taken.ofId_eq⟩
  · rintro ⟨reserved, unspelled⟩
    have file := ModuleRef.ofId_eq_file_iff.mpr unspelled
    refine ⟨file, reserved, fun state => ?_⟩
    rw [load_of_ne_sourceId reserved, file]

theorem takesForFile_of_isAbsolute {id : String} (h : Path.isAbsolute id = true) :
    bridge.TakesForFile id := by
  obtain ⟨rest, chars⟩ := Path.isAbsolute_iff.mp h
  refine takesForFile_iff.mpr ⟨?_, fun ref spells => ?_⟩
  · rintro rfl
    exact absurd h (by decide)
  · have marked := spells.chars
    rw [chars] at marked
    exact absurd (List.cons.inj marked).1 (by decide)

/-- A file's identifier is its path, cleaned if it was taken from a directory. It is taken for the
file unless it is that of the source text or spells a module, and then it is taken for these. With
an absolute path, or one taken from an absolute directory, this cannot happen. -/
theorem file_module_identity (h : bridge.Answers question state w answer)
    (internal : answer.external = false) (file : answer.targetSpace = Space.file) :
    ∃ id, id = filePath answer.path (bridge.dir question state) ∧
      bridge.route question state w = .found ⟨id, false, answer.sideEffects⟩ ∧
      (bridge.TakesForFile id ↔ id ≠ ModuleRef.sourceId ∧ ∀ ref, ¬ ModuleRef.Spells id ref) ∧
      (Path.isAbsolute answer.path = true ∨
        (∃ base, bridge.dir question state = some base ∧ Path.isAbsolute base = true) →
          bridge.TakesForFile id) ∧
      (id = ModuleRef.sourceId → ∀ state', bridge.load id state' =
        pure (.contents bridge.entry.source (.ofLoader bridge.entry.loader), state')) ∧
      ∀ ref, ModuleRef.Spells id ref → ∀ state', bridge.load id state' = do
        let result ← Dispatch.load bridge.plugins ⟨ref.path, ref.space⟩
        return settleLoad id result state' := by
  refine ⟨_, rfl, ?_, takesForFile_iff, ?_, ?_, ?_⟩
  · rw [h.route_eq, target_of_file _ _ internal file]
  · intro rooted
    exact takesForFile_of_isAbsolute (isAbsolute_filePath rooted)
  · intro same state'
    rw [same, load_sourceId]
  · intro ref spells state'
    rw [load_of_ne_sourceId spells.ne_sourceId, spells.ofId_eq]

end Files

/-- A relative path in the directory of the source text. -/
theorem file_module_identity_relative :
    (leadingTo { path := "<stdin>" }).Answers
        ⟨"a", some ModuleRef.sourceId, .importStatement⟩ {} () { path := "<stdin>" } ∧
      (leadingTo { path := "<stdin>" }).TakesForFile "/<stdin>" := by
  have answers : (leadingTo { path := "<stdin>" }).Answers
      ⟨"a", some ModuleRef.sourceId, .importStatement⟩ {} () { path := "<stdin>" } :=
    ⟨by simp [Question.IsSource], "web", (), rfl⟩
  obtain ⟨id, cleaned, -, -, rooted, -⟩ := file_module_identity answers rfl rfl
  have path : id = "/<stdin>" := cleaned.trans rfl
  exact ⟨answers, path ▸ rooted (.inr ⟨"/", rfl, rfl⟩)⟩

/-- Entry points have no directory: one that is led to the file `<stdin>` gets the source text, and
one that is led to a file whose path spells a module gets that module. -/
theorem file_module_mistaken :
    ((leadingTo { path := "<stdin>" }).Answers ⟨"a", none, .entryPoint⟩ {} ()
        { path := "<stdin>" } ∧
      (leadingTo { path := "<stdin>" }).route ⟨"a", none, .entryPoint⟩ {} () =
        .found ⟨"<stdin>", false, none⟩ ∧
      StateT.run ((leadingTo { path := "<stdin>" }).load "<stdin>" {}) () =
        ((.contents "text" (.ofLoader .js), {}), ())) ∧
    ((leadingTo { path := "\x00b:c" }).Answers ⟨"a", none, .entryPoint⟩ {} ()
        { path := "\x00b:c" } ∧
      (leadingTo { path := "\x00b:c" }).route ⟨"a", none, .entryPoint⟩ {} () =
        .found ⟨"\x00b:c", false, none⟩ ∧
      StateT.run ((leadingTo { path := "\x00b:c" }).load "\x00b:c" {}) () =
        ((.contents "b|c" (.ofLoader .js), {}), ())) := by
  have asked : ¬ (Question.mk "a" none .entryPoint).IsSource := by
    simp [Question.IsSource, ModuleRef.sourceId]
  exact ⟨⟨⟨asked, "web", (), rfl⟩, rfl, rfl⟩, ⟨asked, "web", (), rfl⟩, rfl, rfl⟩

end Bridge

end BundleHost
