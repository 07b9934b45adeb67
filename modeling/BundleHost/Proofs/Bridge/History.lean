import BundleHost.Proofs.Bridge.Answer

/-!
# What the bridge keeps over a run

The engine makes calls one after the other, and every call may change what the bridge keeps. What
is kept at the end is what the calls added, in their order: the first failure, all warnings of
answers, and for every module the directory that its latest load gave. Handlers may fail, and may
answer the same call differently each time.

## Main statements

* `Step.adds`, `Transcript.adds` — what one call and what a run of calls add to the state.
* `state_of_run` — what is kept after any calls on a new bridge.
-/

namespace BundleHost

/-- The failure that a route passes on. -/
def Route.failure? : Route → Option HookFailure
  | .failed failure => some failure
  | _ => none

/-- The failure that contents pass on. -/
def Loaded.failure? : Loaded → Option HookFailure
  | .failed failure => some failure
  | _ => none

instance (question : Question) : Decidable question.IsSource := inferInstanceAs (Decidable (_ ∧ _))

namespace Bridge

/-- A call of the engine. -/
inductive Call where
  | resolve (question : Question)
  | load (id : String)
  deriving DecidableEq, Repr

/-- What the engine gets for a call. -/
inductive Reply where
  | route (route : Route)
  | loaded (loaded : Loaded)
  deriving DecidableEq, Repr

def Reply.failure? : Reply → Option HookFailure
  | .route reached => reached.failure?
  | .loaded contents => contents.failure?

section Calls

variable [RegexEngine] {m : Type → Type} [Monad m] (bridge : Bridge m)

def answer : Call → StateT BridgeState m Reply
  | .resolve question => do
    return .route (← bridge.resolve question.specifier question.importer question.kind)
  | .load id => do return .loaded (← bridge.load id)

/-- The replies to calls that are made one after the other. -/
def answerAll (calls : List Call) : StateT BridgeState m (List Reply) := calls.mapM bridge.answer

/-- What the plugins come to about a question. They are not asked about the source text. -/
def consultResolve (question : Question) (state : BridgeState) :
    m (Except HookFailure (Handling ResolveAnswer)) :=
  if question.IsSource then pure (.ok .unhandled)
  else Dispatch.resolve bridge.plugins
    (bridge.resolveRequest state question.specifier question.importer question.kind)

/-- What the plugins come to about the contents of a module. -/
def consultLoad (id : String) : m (Except HookFailure (Handling LoadAnswer)) :=
  if id = ModuleRef.sourceId then pure (.ok .unhandled)
  else Dispatch.load bridge.plugins ⟨(ModuleRef.ofId id).path, (ModuleRef.ofId id).space⟩

end Calls

/-- A call with what the plugins came to about it and what the engine got. -/
inductive Exchange where
  | resolve (question : Question) (result : Except HookFailure (Handling ResolveAnswer))
      (route : Route)
  | load (id : String) (result : Except HookFailure (Handling LoadAnswer)) (loaded : Loaded)

namespace Exchange

def call : Exchange → Call
  | resolve question _ _ => .resolve question
  | load id _ _ => .load id

def reply : Exchange → Reply
  | resolve _ _ route => .route route
  | load _ _ loaded => .loaded loaded

/-- The failure that the engine got. -/
def failure? (exchange : Exchange) : Option HookFailure := exchange.reply.failure?

@[simp] theorem failure?_resolve (question : Question)
    (result : Except HookFailure (Handling ResolveAnswer)) (route : Route) :
    (resolve question result route).failure? = route.failure? := rfl

@[simp] theorem failure?_load (id : String) (result : Except HookFailure (Handling LoadAnswer))
    (loaded : Loaded) : (load id result loaded).failure? = loaded.failure? := rfl

/-- The diagnostic for a warning of a plugin: what the plugin was asked about stands for the file,
and the plugin's name is put before the text. -/
def warning (plugin subject text : String) : Diagnostic where
  kind := .plugin
  severity := .warning
  message := "[" ++ plugin ++ "] " ++ text
  file := some subject
  line := none
  column := none
  help := none

/-- A diagnostic for every warning of a plugin's answer, about the specifier or the path. -/
def warnings : Exchange → List Diagnostic
  | resolve question (.ok (.handled plugin answer)) _ =>
    answer.warnings.map (warning plugin question.specifier)
  | load id (.ok (.handled plugin answer)) _ =>
    answer.warnings.map (warning plugin (ModuleRef.ofId id).path)
  | _ => []

/-- The directory that a plugin's answer gave for the imports of a module. -/
def dir? (id : String) : Exchange → Option String
  | load loaded (.ok (.handled _ answer)) _ => if loaded = id then answer.resolveDir else none
  | _ => none

end Exchange

/-- The directory that the latest load of a module gave, of those that gave one. -/
def latestDir? (exchanges : List Exchange) (id : String) : Option String :=
  (exchanges.filterMap (Exchange.dir? id)).getLast?

section Adds

variable {s s' s₁ s₂ : BridgeState}

/-- A bridge keeps a diagnostic for every text that a plugin warns with. -/
theorem warnings_warn (s : BridgeState) (plugin subject : String) (texts : List String) :
    (s.warn plugin subject texts).warnings =
      s.warnings ++ texts.map (Exchange.warning plugin subject) := by
  have same (text : String) :
      Diagnostic.ofPlugin plugin subject text = Exchange.warning plugin subject text :=
    Diagnostic.ofPlugin_eq plugin subject text
  rw [BridgeState.warn, List.map_congr_left fun text _ => same text]

/-- What exchanges add to what is kept. -/
structure Adds (s : BridgeState) (exchanges : List Exchange) (s' : BridgeState) : Prop where
  failure : s'.failure = s.failure.or (exchanges.findSome? Exchange.failure?)
  warnings : s'.warnings = s.warnings ++ exchanges.flatMap Exchange.warnings
  dirs : ∀ id, s'.moduleDirs.get? id = (latestDir? exchanges id).or (s.moduleDirs.get? id)

theorem Adds.nil (s : BridgeState) : Adds s [] s :=
  ⟨by simp, by simp, fun id => by simp [latestDir?]⟩

theorem Adds.append {xs ys : List Exchange} (first : Adds s xs s₁) (rest : Adds s₁ ys s₂) :
    Adds s (xs ++ ys) s₂ where
  failure := by rw [rest.failure, first.failure, List.findSome?_append, Option.or_assoc]
  warnings := by rw [rest.warnings, first.warnings, List.flatMap_append, List.append_assoc]
  dirs id := by
    rw [rest.dirs, first.dirs, latestDir?, latestDir?, latestDir?, List.filterMap_append,
      List.getLast?_append, Option.or_assoc]

theorem adds_singleton {exchange : Exchange}
    (failure : s'.failure = s.failure.or exchange.failure?)
    (warnings : s'.warnings = s.warnings ++ exchange.warnings)
    (dirs : ∀ id, s'.moduleDirs.get? id = (exchange.dir? id).or (s.moduleDirs.get? id)) :
    Adds s [exchange] s' := by
  refine ⟨?_, ?_, fun id => ?_⟩
  · simpa using failure
  · simpa using warnings
  · rw [dirs id, latestDir?]
    cases given : exchange.dir? id <;> simp [given]

/-- A failure was there before, or the engine got it for one of the calls. -/
theorem Adds.failure_cases {exchanges : List Exchange} (h : Adds s exchanges s')
    {failure : HookFailure} (kept : s'.failure = some failure) :
    s.failure = some failure ∨ ∃ exchange ∈ exchanges, exchange.failure? = some failure := by
  rw [h.failure, Option.or_eq_some_iff] at kept
  obtain before | ⟨-, found⟩ := kept
  · exact .inl before
  · exact .inr (List.exists_of_findSome?_eq_some found)

end Adds

variable [RegexEngine] {World : Type} (bridge : Bridge (StateM World))

/-- From a state and a world an exchange leads to others. -/
inductive Step (s : BridgeState) (w : World) : Exchange → BridgeState → World → Prop
  | resolve {question : Question} {result : Except HookFailure (Handling ResolveAnswer)}
      {route : Route} {s' : BridgeState} {w' : World}
      (consulted : StateT.run (bridge.consultResolve question s) w = (result, w'))
      (answered : StateT.run (bridge.resolve question.specifier question.importer question.kind s)
        w = ((route, s'), w')) :
      Step s w (.resolve question result route) s' w'
  | load {id : String} {result : Except HookFailure (Handling LoadAnswer)} {loaded : Loaded}
      {s' : BridgeState} {w' : World}
      (consulted : StateT.run (bridge.consultLoad id) w = (result, w'))
      (answered : StateT.run (bridge.load id s) w = ((loaded, s'), w')) :
      Step s w (.load id result loaded) s' w'

/-- Exchanges that follow each other. -/
inductive Transcript : BridgeState → World → List Exchange → BridgeState → World → Prop
  | nil (s : BridgeState) (w : World) : Transcript s w [] s w
  | cons {s s₁ s₂ : BridgeState} {w w₁ w₂ : World} {exchange : Exchange} {later : List Exchange}
      (first : bridge.Step s w exchange s₁ w₁) (rest : Transcript s₁ w₁ later s₂ w₂) :
      Transcript s w (exchange :: later) s₂ w₂

variable {bridge} {s s' s₁ s₂ : BridgeState} {w w' w₁ w₂ : World}

/-! ## One call -/

section Settling

variable {question : Question} {id : String}

theorem run_consultResolve_of_isSource (own : question.IsSource) :
    StateT.run (bridge.consultResolve question s) w = (.ok .unhandled, w) := by
  rw [consultResolve, if_pos own]
  rfl

theorem run_resolve_of_consulted (foreign : ¬ question.IsSource)
    {result : Except HookFailure (Handling ResolveAnswer)}
    (consulted : StateT.run (bridge.consultResolve question s) w = (result, w')) :
    StateT.run (bridge.resolve question.specifier question.importer question.kind s) w =
      (bridge.settleResolve question.specifier question.importer result s, w') := by
  rw [consultResolve, if_neg foreign] at consulted
  exact run_resolve_of_dispatched foreign consulted

theorem run_consultLoad_of_source (own : id = ModuleRef.sourceId) :
    StateT.run (bridge.consultLoad id) w = (.ok .unhandled, w) := by
  rw [consultLoad, if_pos own]
  rfl

theorem run_load_of_source (own : id = ModuleRef.sourceId) :
    StateT.run (bridge.load id s) w =
      ((.contents bridge.entry.source (.ofLoader bridge.entry.loader), s), w) := by
  rw [own, load_sourceId]
  rfl

theorem run_load_of_consulted (foreign : id ≠ ModuleRef.sourceId)
    {result : Except HookFailure (Handling LoadAnswer)}
    (consulted : StateT.run (bridge.consultLoad id) w = (result, w')) :
    StateT.run (bridge.load id s) w = (settleLoad id result s, w') := by
  rw [consultLoad, if_neg foreign] at consulted
  rw [load_of_ne_sourceId foreign, StateT.run_bind]
  rw [consulted]
  rfl

end Settling

/-- Every call leads somewhere. -/
theorem exists_step (bridge : Bridge (StateM World)) (call : Call) (s : BridgeState) (w : World) :
    ∃ exchange s' w', bridge.Step s w exchange s' w' ∧ exchange.call = call := by
  cases call with
  | resolve question =>
    by_cases own : question.IsSource
    · have step : bridge.Step s w _ s w :=
        .resolve (run_consultResolve_of_isSource own) (run_resolve_of_isSource own)
      exact ⟨_, s, w, step, rfl⟩
    · obtain ⟨result, w', consulted⟩ : ∃ result w',
          StateT.run (bridge.consultResolve question s) w = (result, w') := ⟨_, _, rfl⟩
      exact ⟨_, _, w', .resolve consulted (run_resolve_of_consulted own consulted), rfl⟩
  | load id =>
    by_cases own : id = ModuleRef.sourceId
    · have step : bridge.Step s w _ s w :=
        .load (run_consultLoad_of_source own) (run_load_of_source own)
      exact ⟨_, s, w, step, rfl⟩
    · obtain ⟨result, w', consulted⟩ : ∃ result w',
          StateT.run (bridge.consultLoad id) w = (result, w') := ⟨_, _, rfl⟩
      exact ⟨_, _, w', .load consulted (run_load_of_consulted own consulted), rfl⟩

theorem failure?_fallback (bridge : Bridge (StateM World)) (specifier : String)
    (importer dir : Option String) : (bridge.fallback specifier importer dir).failure? = none := by
  unfold fallback
  repeat' split
  all_goals rfl

/-- What a question can do to the state. -/
theorem Step.resolve_cases {question : Question}
    {result : Except HookFailure (Handling ResolveAnswer)} {route : Route}
    (h : bridge.Step s w (.resolve question result route) s' w') :
    (∃ failure, result = .error failure ∧ route = .failed failure ∧ s' = s.record failure) ∨
    (result = .ok .unhandled ∧ route.failure? = none ∧ s' = s) ∨
    ∃ plugin answer, result = .ok (.handled plugin answer) ∧ route.failure? = none ∧
      s' = s.warn plugin question.specifier answer.warnings := by
  cases h with
  | resolve consulted answered =>
    by_cases own : question.IsSource
    · rw [run_consultResolve_of_isSource own] at consulted
      rw [run_resolve_of_isSource own] at answered
      cases consulted
      cases answered
      exact .inr (.inl ⟨rfl, rfl, rfl⟩)
    · rw [run_resolve_of_consulted own consulted] at answered
      have settled := congrArg Prod.fst answered
      match result with
      | .error failure =>
        cases settled
        exact .inl ⟨failure, rfl, rfl, rfl⟩
      | .ok .unhandled =>
        cases settled
        exact .inr (.inl ⟨rfl, failure?_fallback _ _ _ _, rfl⟩)
      | .ok (.handled plugin answer) =>
        cases settled
        exact .inr (.inr ⟨plugin, answer, rfl, rfl, rfl⟩)

/-- What the loading of a module can do to the state. -/
theorem Step.load_cases {id : String} {result : Except HookFailure (Handling LoadAnswer)}
    {loaded : Loaded} (h : bridge.Step s w (.load id result loaded) s' w') :
    (∃ failure, result = .error failure ∧ loaded = .failed failure ∧ s' = s.record failure) ∨
    (result = .ok .unhandled ∧ loaded.failure? = none ∧ s' = s) ∨
    ∃ plugin answer, result = .ok (.handled plugin answer) ∧ loaded.failure? = none ∧
      s'.failure = s.failure ∧
      s'.warnings = (s.warn plugin (ModuleRef.ofId id).path answer.warnings).warnings ∧
      s'.moduleDirs = (answer.resolveDir.map (s.moduleDirs.insert id)).getD s.moduleDirs := by
  cases h with
  | load consulted answered =>
    by_cases own : id = ModuleRef.sourceId
    · rw [run_consultLoad_of_source own] at consulted
      rw [run_load_of_source own] at answered
      cases consulted
      cases answered
      exact .inr (.inl ⟨rfl, rfl, rfl⟩)
    · rw [run_load_of_consulted own consulted] at answered
      have settled := congrArg Prod.fst answered
      match result with
      | .error failure =>
        cases settled
        exact .inl ⟨failure, rfl, rfl, rfl⟩
      | .ok .unhandled =>
        cases settled
        exact .inr (.inl ⟨rfl, rfl, rfl⟩)
      | .ok (.handled plugin answer) =>
        cases settled
        refine .inr (.inr ⟨plugin, answer, rfl, rfl, ?_⟩)
        cases answer.resolveDir <;> exact ⟨rfl, rfl, rfl⟩

/-- One call adds what its exchange says. -/
theorem Step.adds {exchange : Exchange} (h : bridge.Step s w exchange s' w') :
    Adds s [exchange] s' := by
  cases exchange with
  | resolve question result route =>
    obtain ⟨failure, rfl, rfl, rfl⟩ | ⟨rfl, passed, rfl⟩ | ⟨plugin, answer, rfl, passed, rfl⟩ :=
      h.resolve_cases
    · exact adds_singleton rfl (by simp [BridgeState.record, Exchange.warnings]) fun id => rfl
    · exact adds_singleton (by simp [passed]) (by simp [Exchange.warnings]) fun id => rfl
    · have kept := warnings_warn s plugin question.specifier answer.warnings
      exact adds_singleton (by simp [BridgeState.warn, passed]) kept fun id => rfl
  | load id result loaded =>
    obtain ⟨failure, rfl, rfl, rfl⟩ | ⟨rfl, passed, rfl⟩ |
      ⟨plugin, answer, rfl, passed, failure, warnings, dirs⟩ := h.load_cases
    · exact adds_singleton rfl (by simp [BridgeState.record, Exchange.warnings]) fun id => rfl
    · exact adds_singleton (by simp [passed]) (by simp [Exchange.warnings]) fun id => rfl
    · have kept := warnings.trans (warnings_warn s plugin _ answer.warnings)
      refine adds_singleton (by simp [failure, passed]) kept fun other => ?_
      rw [dirs, Exchange.dir?]
      cases answer.resolveDir with
      | none => simp
      | some dir =>
        by_cases same : id = other
        · simp [same]
        · simp [same, Ne.symm same]

/-- A call that fails leaves all but the failure as it was. -/
theorem Step.eq_record {exchange : Exchange} (h : bridge.Step s w exchange s' w')
    {failure : HookFailure} (failed : exchange.failure? = some failure) :
    s' = s.record failure := by
  cases exchange with
  | resolve question result route =>
    obtain ⟨found, -, rfl, rfl⟩ | ⟨-, passed, -⟩ | ⟨-, -, -, passed, -⟩ := h.resolve_cases
    · obtain rfl := Option.some.inj failed
      rfl
    all_goals
      rw [Exchange.failure?_resolve, passed] at failed
      cases failed
  | load id result loaded =>
    obtain ⟨found, -, rfl, rfl⟩ | ⟨-, passed, -⟩ | ⟨-, -, -, passed, -⟩ := h.load_cases
    · obtain rfl := Option.some.inj failed
      rfl
    all_goals
      rw [Exchange.failure?_load, passed] at failed
      cases failed

/-! ## Runs -/

theorem exists_transcript (bridge : Bridge (StateM World)) (calls : List Call) (s : BridgeState)
    (w : World) :
    ∃ exchanges s' w', bridge.Transcript s w exchanges s' w' ∧
      exchanges.map Exchange.call = calls := by
  induction calls generalizing s w with
  | nil => exact ⟨[], s, w, .nil s w, rfl⟩
  | cons call rest ih =>
    obtain ⟨exchange, s₁, w₁, first, called⟩ := exists_step bridge call s w
    obtain ⟨later, s₂, w₂, run, calls⟩ := ih s₁ w₁
    exact ⟨exchange :: later, s₂, w₂, .cons first run, by simp [called, calls]⟩

theorem Step.run_answer {exchange : Exchange} (h : bridge.Step s w exchange s' w') :
    StateT.run (bridge.answer exchange.call s) w = ((exchange.reply, s'), w') := by
  cases h with
  | @resolve question _ _ _ _ _ answered =>
    let resolved := bridge.resolve question.specifier question.importer question.kind s
    change (let p := StateT.run resolved w; ((Reply.route p.1.1, p.1.2), p.2)) = _
    rw [answered]
    rfl
  | @load id _ _ _ _ _ answered =>
    change (let p := StateT.run (bridge.load id s) w; ((Reply.loaded p.1.1, p.1.2), p.2)) = _
    rw [answered]
    rfl

theorem Transcript.run_answerAll {exchanges : List Exchange}
    (h : bridge.Transcript s w exchanges s' w') :
    StateT.run (bridge.answerAll (exchanges.map Exchange.call) s) w =
      ((exchanges.map Exchange.reply, s'), w') := by
  induction h with
  | nil s w =>
    rw [answerAll, List.map_nil, List.mapM_nil]
    rfl
  | @cons s _ _ w _ _ exchange later first _ ih =>
    rw [answerAll, List.map_cons, List.mapM_cons]
    let rest (p : (Reply × BridgeState) × World) : (List Reply × BridgeState) × World :=
      let q := StateT.run (bridge.answerAll (later.map Exchange.call) p.1.2) p.2
      ((p.1.1 :: q.1.1, q.1.2), q.2)
    change rest (StateT.run (bridge.answer exchange.call s) w) = _
    rw [first.run_answer]
    simp only [rest, ih]
    rfl

/-- A run adds what its exchanges say, in their order. -/
theorem Transcript.adds {exchanges : List Exchange}
    (h : bridge.Transcript s w exchanges s' w') : Adds s exchanges s' := by
  induction h with
  | nil s w => exact .nil s
  | cons first _ ih => exact first.adds.append ih

/-- After any calls on a new bridge, whatever the handlers answer: the failure that is kept is that
of the first call that failed; the warnings are those of all answers of plugins in the order of the
calls; the directory of a module is that of the source text, or the one that its latest load gave,
or the one that the file lies in. Calls that fail change no warnings and no directories. -/
theorem state_of_run (bridge : Bridge (StateM World)) (calls : List Call) (w : World) :
    ∃ exchanges state w',
      exchanges.map Exchange.call = calls ∧
      bridge.Transcript {} w exchanges state w' ∧
      StateT.run (bridge.answerAll calls {}) w = ((exchanges.map Exchange.reply, state), w') ∧
      state.takeFailure.1 = exchanges.findSome? Exchange.failure? ∧
      state.takeWarnings.1 = exchanges.flatMap Exchange.warnings ∧
      (∀ id, state.dirOf bridge.entry id =
        if id = ModuleRef.sourceId then some bridge.entry.resolveDir
        else (latestDir? exchanges id).or
          (if Space.isFile (ModuleRef.ofId id).space then Path.parent? (ModuleRef.ofId id).path
          else none)) ∧
      ∀ s v exchange s' v', bridge.Step s v exchange s' v' → exchange.failure?.isSome →
        s'.warnings = s.warnings ∧ s'.moduleDirs = s.moduleDirs := by
  obtain ⟨exchanges, state, w', run, rfl⟩ := exists_transcript bridge calls {} w
  have added := run.adds
  refine ⟨exchanges, state, w', rfl, run, run.run_answerAll, ?_, ?_, fun id => ?_, ?_⟩
  · exact added.failure
  · exact added.warnings
  · have dir : state.moduleDirs.get? id = latestDir? exchanges id := by
      rw [added.dirs id]
      exact Option.or_none
    unfold BridgeState.dirOf
    rw [dir]
    cases latestDir? exchanges id <;> rfl
  · intro s v exchange s' v' step failed
    obtain ⟨failure, failed⟩ := Option.isSome_iff_exists.mp failed
    rw [step.eq_record failed]
    exact ⟨rfl, rfl⟩

end Bridge

end BundleHost
