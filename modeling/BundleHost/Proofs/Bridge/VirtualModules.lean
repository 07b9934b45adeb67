import BundleHost.Proofs.Bridge.Identity
import BundleHost.Proofs.Plugin.VirtualModule

/-!
# Fixed contents behind the bridge

What a specifier that the source text imports gets from plugins for fixed contents. It is led into
the namespace of the first plugin whose pattern occurs in it. There it gets the contents of the
first plugin with this namespace, which need not be the same one: a plugin serves its whole
namespace, whatever its pattern.

## Main statements

* `contents_of_virtual_module` — whose contents a specifier gets.
* `contents_of_shared_space` — two plugins in one namespace, of which the first serves both.
-/

namespace BundleHost.Bridge

section AnyEngine

variable [RegexEngine] {World : Type} {bridge : Bridge (StateM World)}
  {modules : List VirtualModule} {served owner : VirtualModule} {specifier id : String}
  {question : Question} {state : BridgeState} {w : World}

/-- The first preset that catches a specifier answers the question where it leads. -/
theorem answers_of_first (built : VirtualModule.Built modules bridge.plugins)
    (foreign : ¬ question.IsSource)
    (first : FirstSuch (·.Catches question.specifier) modules served) :
    bridge.Answers question state w (served.resolveAnswer question.specifier) := by
  have asked : (bridge.request question state).specifier = question.specifier := by
    unfold request resolveRequest
    split <;> rfl
  rw [← asked] at first ⊢
  obtain ⟨name, resolved⟩ := VirtualModule.resolve_of_first built _ first
  exact ⟨foreign, name, w, by rw [resolved]; rfl⟩

/-- The contents that the plugins are asked for by a namespace and a path are those of the first
preset with this namespace, and nothing is kept of the load. -/
theorem run_load_of_first [RegexEngine.LawfulPatterns]
    (built : VirtualModule.Built modules bridge.plugins) (ref : ModuleRef)
    (valid : Space.isValid ref.space = true)
    (asked : ∀ state, bridge.load id state = do
      let result ← Dispatch.load bridge.plugins ⟨ref.path, ref.space⟩
      return settleLoad id result state)
    (first : FirstSuch (·.space = ref.space) modules owner) (state : BridgeState) (w : World) :
    StateT.run (bridge.load id state) w =
      ((.contents owner.contents (.ofLoader owner.loader), state), w) := by
  obtain ⟨name, loaded⟩ :=
    VirtualModule.load_of_first built ⟨ref.path, ref.space⟩ valid first
  have settled : settleLoad id (.ok (.handled name owner.loadAnswer)) state =
      (.contents owner.contents (.ofLoader owner.loader), state) := by
    simp [settleLoad, VirtualModule.loadAnswer, BridgeState.warn]
  rw [asked, loaded, pure_bind, settled]
  rfl

/-! ## Outside the namespace of files -/

/-- The identifier under which a preset serves a specifier. -/
def presetId (served : VirtualModule) (specifier : String) : String :=
  (ModuleRef.mk served.space specifier).toId

theorem route_of_first (built : VirtualModule.Built modules bridge.plugins)
    (foreign : ¬ question.IsSource) (outside : Space.isFile served.space = false)
    (first : FirstSuch (·.Catches question.specifier) modules served) :
    bridge.route question state w = .found ⟨presetId served question.specifier, false, none⟩ := by
  let answer : ResolveAnswer := served.resolveAnswer question.specifier
  have answers : bridge.Answers question state w answer := answers_of_first built foreign first
  have target : Space.isFile answer.targetSpace = false := outside
  rw [answers.route_eq, target_of_outside _ _ rfl target]
  rfl

theorem load_presetId (valid : Space.isValid served.space = true)
    (outside : Space.isFile served.space = false) (specifier : String) (state : BridgeState) :
    bridge.load (presetId served specifier) state = do
      let result ← Dispatch.load bridge.plugins ⟨specifier, served.space⟩
      return settleLoad (presetId served specifier) result state := by
  have spells : ModuleRef.Spells (presetId served specifier) ⟨served.space, specifier⟩ :=
    ModuleRef.spells_toId valid outside
  rw [load_of_ne_sourceId spells.ne_sourceId, spells.ofId_eq]

/-! ## Any preset -/

/-- A specifier that the source text imports is led to the first preset whose pattern occurs in it,
and gets the contents of the first preset with the namespace of that one; this is the same preset if
no other has its namespace. A preset may also serve files: then the identifier has to be taken for a
file, which it is if the directory of the source text is absolute. -/
theorem contents_of_virtual_module [RegexEngine.LawfulPatterns]
    (built : VirtualModule.Built modules bridge.plugins)
    (caught : ∃ v ∈ modules, v.Catches specifier) (kind : ResolveKind) (state : BridgeState)
    (w : World) :
    ∃ served owner id, FirstSuch (·.Catches specifier) modules served ∧
      FirstSuch (·.space = served.space) modules owner ∧
      ((∀ v ∈ modules, v.space = served.space → v = served) → owner = served) ∧
      bridge.route ⟨specifier, some ModuleRef.sourceId, kind⟩ state w = .found ⟨id, false, none⟩ ∧
      (served.space = Space.file → id = filePath specifier (some bridge.entry.resolveDir) ∧
        (Path.isAbsolute bridge.entry.resolveDir = true → bridge.TakesForFile id)) ∧
      (served.space ≠ Space.file ∨ bridge.TakesForFile id → ∀ state' w',
        StateT.run (bridge.load id state') w' =
          ((.contents owner.contents (.ofLoader owner.loader), state'), w')) := by
  obtain ⟨served, first⟩ := exists_firstSuch caught
  obtain ⟨owner, serves⟩ :=
    exists_firstSuch (p := (·.space = served.space)) ⟨served, first.mem, rfl⟩
  have valid : Space.isValid served.space = true := VirtualModule.isValid_of_mem built first.mem
  have own : (∀ v ∈ modules, v.space = served.space → v = served) → owner = served :=
    fun alone => alone owner serves.mem serves.holds
  let question : Question := ⟨specifier, some ModuleRef.sourceId, kind⟩
  have foreign : ¬ question.IsSource := by simp [question, Question.IsSource]
  by_cases file : served.space = Space.file
  · let answer : ResolveAnswer := served.resolveAnswer specifier
    have answers : bridge.Answers question state w answer := answers_of_first built foreign first
    have target : answer.targetSpace = Space.file := file
    refine ⟨served, owner, filePath specifier (some bridge.entry.resolveDir), first, serves, own,
      ?_, fun _ => ⟨rfl, fun rooted => ?_⟩, fun taken => ?_⟩
    · rw [answers.route_eq, target_of_file _ _ rfl target]
      rfl
    · exact takesForFile_of_isAbsolute (isAbsolute_filePath (.inr ⟨_, rfl, rooted⟩))
    · have taken := taken.resolve_left (absurd file)
      rw [file] at valid serves
      exact run_load_of_first built ⟨Space.file, _⟩ valid taken.load_eq serves
  · have outside : Space.isFile served.space = false :=
      Bool.eq_false_iff.mpr (mt (Space.isFile_iff_of_isValid valid).mp file)
    exact ⟨served, owner, presetId served specifier, first, serves, own,
      route_of_first built foreign outside first, fun same => absurd same file,
      fun _ => run_load_of_first built ⟨served.space, specifier⟩ valid
        (load_presetId valid outside specifier) serves⟩

end AnyEngine

/-! ## Two presets -/

def presetA (space : String) : VirtualModule := ⟨"a", "^a$", space, "A", .js⟩

def presetB (space : String) : VirtualModule := ⟨"b", "^b$", space, "B", .js⟩

/-- A bridge to some plugins, with the source text at the root. -/
def bridgeTo (plugins : List (Plugin (StateM Unit))) : Bridge (StateM Unit) :=
  ⟨plugins, ⟨"text", .js, "/"⟩, {}⟩

/-- In namespaces of their own both presets serve what they catch. -/
theorem contents_of_own_space :
    ∃ plugins, VirtualModule.Built [presetA "x", presetB "y"] plugins ∧
      (∃ v ∈ [presetA "x", presetB "y"], v.Catches "b") ∧
      ∃ id, (bridgeTo plugins).route ⟨"b", some ModuleRef.sourceId, .importStatement⟩ {} () =
          .found ⟨id, false, none⟩ ∧
        StateT.run ((bridgeTo plugins).load id {}) () =
          ((.contents "B" (.ofLoader .js), {}), ()) := by
  obtain ⟨plugins, built⟩ : ∃ plugins : List (Plugin (StateM Unit)),
      VirtualModule.Built [presetA "x", presetB "y"] (bridgeTo plugins).plugins :=
    ⟨_, .cons rfl (.cons rfl .nil)⟩
  have caught : ∃ v ∈ [presetA "x", presetB "y"], v.Catches "b" :=
    ⟨presetB "y", by simp, by decide +kernel⟩
  have first : FirstSuch (·.Catches "b") [presetA "x", presetB "y"] (presetB "y") :=
    .tail (by decide +kernel) (.head (by decide +kernel))
  obtain ⟨served, owner, id, first', -, own, found, -, loads⟩ :=
    contents_of_virtual_module built caught .importStatement {} ()
  obtain rfl := first'.unique first
  obtain rfl : owner = presetB "y" := own (by decide)
  exact ⟨plugins, built, caught, id, found, loads (.inl (by decide)) {} ()⟩

/-- In one namespace the first preset serves what the second catches. -/
theorem contents_of_shared_space :
    ∃ plugins, VirtualModule.Built [presetA "x", presetB "x"] plugins ∧
      FirstSuch (·.Catches "b") [presetA "x", presetB "x"] (presetB "x") ∧
      (presetB "x").contents ≠ "A" ∧
      ∃ id, (bridgeTo plugins).route ⟨"b", some ModuleRef.sourceId, .importStatement⟩ {} () =
          .found ⟨id, false, none⟩ ∧
        StateT.run ((bridgeTo plugins).load id {}) () =
          ((.contents "A" (.ofLoader .js), {}), ()) := by
  obtain ⟨plugins, built⟩ : ∃ plugins : List (Plugin (StateM Unit)),
      VirtualModule.Built [presetA "x", presetB "x"] (bridgeTo plugins).plugins :=
    ⟨_, .cons rfl (.cons rfl .nil)⟩
  have first : FirstSuch (·.Catches "b") [presetA "x", presetB "x"] (presetB "x") :=
    .tail (by decide +kernel) (.head (by decide +kernel))
  have foreign : ¬ (Question.mk "b" (some ModuleRef.sourceId) .importStatement).IsSource := by
    simp [Question.IsSource]
  have asked : ∀ state, (bridgeTo plugins).load (presetId (presetB "x") "b") state = _ :=
    load_presetId (by decide) (by decide) "b"
  exact ⟨plugins, built, first, by decide, _, route_of_first built foreign (by decide) first,
    run_load_of_first built ⟨"x", "b"⟩ (by decide) asked (.head rfl) {} ()⟩

end BundleHost.Bridge
