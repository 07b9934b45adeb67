import BundleHost.Proofs.Invocation.Watching

/-!
# The course of an invocation

Settings that fail the validation end an invocation before anything happens. Otherwise the start
callbacks are called in the order of attachment, up to the first that fails; if none does, the
engine runs once, and then every end callback is called once, whatever the others answer. An error
of the engine comes before a failure of an end callback, and the first of these before the others.

## Main statement

`course_of_invocation` — a watched build or transform shows such a course, with any plugins, any
engine and in any world.
-/

namespace BundleHost.Invocation

variable [RegexEngine] {World σ : Type}

/-- The places and names of the plugins that have a callback. -/
def callees {m : Type → Type} (has : Plugin m → Bool) (slot : Nat) :
    List (Plugin m) → List (Nat × String)
  | [] => []
  | plugin :: rest =>
    if has plugin then (slot, plugin.name) :: callees has (slot + 1) rest
    else callees has (slot + 1) rest

/-- The plugins that are called at the start. -/
abbrev starters (slot : Nat) (plugins : List (Plugin (StateM World))) : List (Nat × String) :=
  callees (·.onStart.isSome) slot plugins

/-- The plugins that are called at the end. -/
abbrev enders (slot : Nat) (plugins : List (Plugin (StateM World))) : List (Nat × String) :=
  callees (·.onEnd.isSome) slot plugins

def startedWell (callee : Nat × String) : Event := .started callee.1 (.ok ())

/-! ## Start callbacks -/

/-- All callees start well, or those do that come before the first that fails. -/
inductive Starts (callees : List (Nat × String)) : List Event → Except HookFailure Unit → Prop
  | all : Starts callees (callees.map startedWell) (.ok ())
  | upTo {before after : List (Nat × String)} {slot : Nat} {name message : String}
      (split : callees = before ++ (slot, name) :: after) :
      Starts callees (before.map startedWell ++ [.started slot (.error message)])
        (.error (.startFailed name message))

omit [RegexEngine] in
theorem Starts.cons {callees : List (Nat × String)} {events : List Event}
    {result : Except HookFailure Unit} (slot : Nat) (name : String)
    (h : Starts callees events result) :
    Starts ((slot, name) :: callees) (.started slot (.ok ()) :: events) result := by
  cases h with
  | all => exact .all
  | @upTo before after _ _ _ split =>
    have longer : (slot, name) :: callees = ((slot, name) :: before) ++ _ :: after :=
      congrArg _ split
    exact .upTo longer

theorem start_watchFrom (slot : Nat) (plugins : List (Plugin (StateM World))) (w : World) :
    ∃ events result w', Runs (Dispatch.start (watchFrom slot plugins)) w events result w' ∧
      Starts (starters slot plugins) events result := by
  induction plugins generalizing slot w with
  | nil => exact ⟨[], .ok (), w, .pure _ _, .all⟩
  | cons plugin rest ih =>
    obtain ⟨name, onStart, onEnd, resolveRules, loadRules⟩ := plugin
    cases onStart with
    | none => exact ih (slot + 1) w
    | some handler =>
      obtain ⟨response, w₁, called⟩ :=
        runs_watchHandler (fun _ => Event.started slot) handler () w
      cases response with
      | error message =>
        have first : starters slot (⟨name, some handler, onEnd, resolveRules, loadRules⟩ :: rest) =
            [] ++ (slot, name) :: starters (slot + 1) rest := rfl
        exact ⟨_, _, w₁, called.bind (.pure _ _), .upTo first⟩
      | ok done =>
        obtain ⟨events, result, w₂, runs, starts⟩ := ih (slot + 1) w₁
        exact ⟨_, result, w₂, called.bind runs, starts.cons slot name⟩

/-! ## End callbacks -/

/-- A callee and what it answered. -/
abbrev Call : Type := (Nat × String) × Except String Unit

def Call.event (report : EndReport) (call : Call) : Event := .ended call.1.1 report call.2

def Call.failure? : Call → Option HookFailure
  | ((_, name), .error message) => some (.handlerFailed name .finish message)
  | (_, .ok ()) => none

/-- Success, or the first failure. -/
def verdict (calls : List Call) : Except HookFailure Unit :=
  match calls.findSome? Call.failure? with
  | some failure => .error failure
  | none => .ok ()

theorem finish_watchFrom (report : EndReport) (slot : Nat)
    (plugins : List (Plugin (StateM World))) (w : World) :
    ∃ calls w', calls.map Prod.fst = enders slot plugins ∧
      Runs (Dispatch.finish report (watchFrom slot plugins)) w (calls.map (Call.event report))
        (verdict calls) w' := by
  induction plugins generalizing slot w with
  | nil => exact ⟨[], w, rfl, .pure _ _⟩
  | cons plugin rest ih =>
    obtain ⟨name, onStart, onEnd, resolveRules, loadRules⟩ := plugin
    cases onEnd with
    | none => exact ih (slot + 1) w
    | some handler =>
      obtain ⟨response, w₁, called⟩ := runs_watchHandler (.ended slot) handler report w
      obtain ⟨calls, w₂, named, runs⟩ := ih (slot + 1) w₁
      refine ⟨((slot, name), response) :: calls, w₂, congrArg _ named, ?_⟩
      have all : Runs (Dispatch.finish report (watchFrom slot
          (⟨name, onStart, some handler, resolveRules, loadRules⟩ :: rest))) w _ _ w₂ :=
        called.bind (runs.bind (.pure _ w₂))
      rw [List.append_nil] at all
      cases response <;> exact all

/-! ## Invocations -/

/-- What the end callbacks learn of an outcome: overlaps count as warnings of a result. -/
def reportOf (plugins : List (Plugin (StateM World))) : Except RunError RunResult → EndReport
  | .ok result => ⟨true, (Overlap.find plugins).length + result.warnings.length⟩
  | .error _ => ⟨false, 0⟩

/-- What is answered after an outcome and the end callbacks. -/
def answerOf (plugins : List (Plugin (StateM World))) :
    Except RunError RunResult → Except HookFailure Unit → Except RunError RunResult
  | .error error, _ => .error error
  | .ok _, .error failure => .error (.ofHook failure)
  | .ok result, .ok () => .ok { result with
      warnings := (Overlap.find plugins).map Diagnostic.ofOverlap ++ result.warnings }

/-- The events of an invocation and its answer. -/
inductive Course (valid : Except ConfigError Unit)
    (engine : Watched World (Except RunError RunResult))
    (plugins : List (Plugin (StateM World))) : List Event → Except RunError RunResult → Prop
  | rejected {error : ConfigError} (invalid : valid = .error error) :
      Course valid engine plugins [] (.error (.ofConfig error))
  | notStarted {before after : List (Nat × String)} {slot : Nat} {name message : String}
      (accepted : valid = .ok ())
      (split : starters 0 plugins = before ++ (slot, name) :: after) :
      Course valid engine plugins (before.map startedWell ++ [.started slot (.error message)])
        (.error (.startFailed name message))
  | completed {inside : List Event} {outcome : Except RunError RunResult} {calls : List Call}
      {w w' : World} (accepted : valid = .ok ()) (ran : Runs engine w inside outcome w')
      (called : calls.map Prod.fst = enders 0 plugins) :
      Course valid engine plugins
        ((starters 0 plugins).map startedWell ++ .engine inside outcome ::
          calls.map (Call.event (reportOf plugins outcome)))
        (answerOf plugins outcome (verdict calls))

theorem report_withOverlaps (plugins : List (Plugin (StateM World)))
    (outcome : Except RunError RunResult) :
    report (outcome.map (withOverlaps (Overlap.find plugins))) = reportOf plugins outcome := by
  cases outcome with
  | error error => rfl
  | ok result => simp [report, reportOf, Except.map, withOverlaps]

theorem conclude_withOverlaps (plugins : List (Plugin (StateM World)))
    (outcome : Except RunError RunResult) (ended : Except HookFailure Unit) :
    conclude (outcome.map (withOverlaps (Overlap.find plugins))) ended =
      answerOf plugins outcome ended := by
  cases outcome <;> cases ended <;> rfl

theorem runs_drive {engine : Engine (Watched World) σ} {input : EngineInput (Watched World) σ}
    (plugins : List (Plugin (StateM World))) (w : World) :
    ∃ events answer w', Runs (drive (watchFrom 0 plugins) (engine.watch input)) w events answer w' ∧
      Course (.ok ()) (engine input) plugins events answer := by
  obtain ⟨started, result, w₁, start, starts⟩ := start_watchFrom 0 plugins w
  cases starts with
  | upTo split =>
    have runs : Runs (drive (watchFrom 0 plugins) (engine.watch input)) w _ _ w₁ :=
      start.bind (.pure _ w₁)
    rw [List.append_nil] at runs
    exact ⟨_, _, w₁, runs, .notStarted rfl split⟩
  | all =>
    obtain ⟨inside, outcome, w₂, ran⟩ := exists_runs (engine input) w₁
    obtain ⟨calls, w₃, called, finish⟩ := finish_watchFrom (reportOf plugins outcome) 0 plugins w₂
    rw [← report_withOverlaps, ← find_watchFrom 0 plugins] at finish
    have runs : Runs (drive (watchFrom 0 plugins) (engine.watch input)) w _ _ w₃ :=
      start.bind (ran.watch.bind (finish.bind (.pure _ w₃)))
    refine ⟨_, _, w₃, runs, ?_⟩
    rw [find_watchFrom, report_withOverlaps, conclude_withOverlaps, List.append_nil]
    exact .completed rfl ran called

theorem runs_run (validate : σ → Except ConfigError Unit) (engine : Engine (Watched World) σ)
    (source : String) (settings : σ) (plugins : List (Plugin (StateM World))) (w : World) :
    ∃ events answer w',
      Runs (run validate engine.watch source ⟨settings, watchFrom 0 plugins⟩) w events answer w' ∧
        Course (validate settings) (engine ⟨source, settings, watchFrom 0 plugins⟩) plugins
          events answer := by
  unfold run
  cases validate settings with
  | error error => exact ⟨[], _, w, .pure _ w, .rejected rfl⟩
  | ok accepted => exact runs_drive plugins w

/-- Every build and every transform takes its course: what happens and what is answered are fixed
by the responses of the callbacks and the outcome of the engine. -/
theorem course_of_invocation (plugins : List (Plugin (StateM World))) (source : String)
    (w : World) :
    (∀ (engine : Engine (Watched World) BuildSettings) (settings : BuildSettings),
      ∃ events answer w',
        Runs (build engine.watch source ⟨settings, watchFrom 0 plugins⟩) w events answer w' ∧
          Course settings.validate (engine ⟨source, settings, watchFrom 0 plugins⟩) plugins
            events answer) ∧
    ∀ (engine : Engine (Watched World) TransformSettings) (settings : TransformSettings),
      ∃ events answer w',
        Runs (transform engine.watch source ⟨settings, watchFrom 0 plugins⟩) w events answer w' ∧
          Course (TransformSettings.validate settings)
            (engine ⟨source, settings, watchFrom 0 plugins⟩) plugins events answer := by
  constructor
  · intro engine settings
    exact runs_run BuildSettings.validate engine source settings plugins w
  · intro engine settings
    exact runs_run TransformSettings.validate engine source settings plugins w

end BundleHost.Invocation
