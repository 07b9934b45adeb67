import BundleHost.Diagnostic.Report
import BundleHost.ModuleId
import BundleHost.Plan.Basic
import BundleHost.RunResult

/-!
# Answers of the engine

The engine answers a run with a batch of errors or with the files that it made and warnings. What a
plugin failed at during the run explains whatever the engine reports after it.
-/

namespace BundleHost

/-- What is in a file that the engine made. -/
inductive AssetContent where
  /-- Generated code: the module that it stands for, if it stands for one, and whether it is that
  of an entry. -/
  | chunk (code : String) (facade : Option String) (isEntry : Bool)
  | raw (bytes : List UInt8)
  deriving DecidableEq, Repr

structure Asset where
  path : String
  content : AssetContent
  deriving DecidableEq, Repr

inductive EngineAnswer where
  | errors (reports : List Report)
  | bundle (assets : List Asset) (warnings : List Report)
  deriving DecidableEq, Repr

/-- What is left of the conversation with plugins when the engine is done. -/
structure HookRecord where
  /-- The first failure. -/
  failure : Option HookFailure := none
  warnings : List Diagnostic := []
  deriving DecidableEq, Repr

/-- Code between a banner and a footer, each on lines of its own. -/
def wrapCode (code : String) (banner footer : Option String) : String :=
  let text :=
    match banner with
    | some banner => banner ++ "\n" ++ code
    | none => code
  match footer with
  | some footer =>
    let text := if text.isEmpty || text.toList.getLast? ≠ some '\n' then text ++ "\n" else text
    text ++ footer ++ "\n"
  | none => text

/-- The diagnostic with a display name in place of the identifier of the source text. -/
def Diagnostic.relabel (name : Option String) (diagnostic : Diagnostic) : Diagnostic :=
  match name with
  | none => diagnostic
  | some name =>
    { diagnostic with
      message := Text.replace diagnostic.message ModuleRef.sourceId name
      file := if diagnostic.file = some ModuleRef.sourceId then some name else diagnostic.file }

namespace Plan

variable [RegexEngine] (plan : Plan)

/-- The code of a chunk as it is written. -/
def wrap (code : String) : String := wrapCode code plan.banner plan.footer

def outputFile (asset : Asset) : OutputFile :=
  match asset.content with
  | .chunk code _ _ => ⟨asset.path, Text.Utf8.encode (plan.wrap code)⟩
  | .raw bytes => ⟨asset.path, bytes⟩

/-- The code of the source text, if an asset has it. -/
def sourceCode? (asset : Asset) : Option String :=
  match asset.content with
  | .chunk code (some facade) _ =>
    if facade = ModuleRef.sourceId then some (plan.wrap code) else none
  | _ => none

/-- The code of another entry, if an asset has it. -/
def entryCode? (asset : Asset) : Option String :=
  match asset.content with
  | .chunk code facade true =>
    if facade = some ModuleRef.sourceId then none else some (plan.wrap code)
  | _ => none

/-- The code of the source text; that of the first other entry if it is absent or empty. -/
def outputText (assets : List Asset) : String :=
  let own := ((assets.filterMap plan.sourceCode?).getLast?).getD ""
  if own.isEmpty then (assets.findSome? plan.entryCode?).getD "" else own

/-- Imports that were not found, which end a run that bundles. -/
def unresolved (warnings : List Diagnostic) : List Diagnostic :=
  if plan.bundling then warnings.filter (·.kind = .unresolvedImport) else []

/-- The result of a run, from what plugins left and what the engine answered. -/
def finish (record : HookRecord) (answer : EngineAnswer) : Except RunError RunResult :=
  let relabel := Diagnostic.relabel plan.sourcefile
  match record.failure, answer with
  | some failure, _ => .error (.ofHook failure)
  | none, .errors reports => .error (.compilation (reports.map fun r => relabel r.toDiagnostic))
  | none, .bundle assets reports =>
    let warnings := reports.map Report.toDiagnostic
    match plan.unresolved warnings with
    | [] =>
      .ok
        { outputText := plan.outputText assets
          warnings := (plan.warnings ++ record.warnings ++ warnings).map relabel
          outputs := assets.map plan.outputFile }
    | unresolved =>
      .error (.compilation (unresolved.map fun d => relabel { d with severity := .error }))

end Plan

end BundleHost
