import BundleHost.Hook.Basic
import BundleHost.Decoder

/-!
# Hook records as documents

Requests, answers and failures as they cross the boundary of a process. A record that is read
inside a tagged document is `tagged`, which widens what counts as a unit.
-/

namespace BundleHost

open Decoder (field get)

namespace ResolveKind

def decode (tagged : Bool) : Decoder ResolveKind := Decoder.variant tagged ofName?

def encode (kind : ResolveKind) : Document := .text kind.name

end ResolveKind

namespace ResolveRequest

def fields (tagged : Bool) : List Decoder.Field :=
  [field "specifier" .required Decoder.text,
   field "importer" .defaulted (Decoder.optional Decoder.text),
   field "namespace" .defaulted Decoder.text,
   field "resolve_dir" .defaulted (Decoder.optional Decoder.text),
   field "kind" .defaulted (ResolveKind.decode tagged)]

def decode (tagged : Bool) : Decoder ResolveRequest := fun document => do
  let found ← Decoder.record (fields tagged) document
  .ok
    { specifier := ← get found "specifier" Decoder.text ""
      importer := ← get found "importer" (Decoder.optional Decoder.text) none
      space := ← get found "namespace" Decoder.text Space.file
      resolveDir := ← get found "resolve_dir" (Decoder.optional Decoder.text) none
      kind := ← get found "kind" (ResolveKind.decode tagged) .importStatement }

def encodeEntries (request : ResolveRequest) : List (String × Document) :=
  [("specifier", .text request.specifier), ("importer", .ofOption .text request.importer),
   ("namespace", .text request.space), ("resolve_dir", .ofOption .text request.resolveDir),
   ("kind", request.kind.encode)]

def encode (request : ResolveRequest) : Document := .table request.encodeEntries

end ResolveRequest

namespace ResolveAnswer

def fields : List Decoder.Field :=
  [field "path" .defaulted Decoder.text,
   field "namespace" .defaulted (Decoder.optional Decoder.text),
   field "external" .defaulted Decoder.bool,
   field "side_effects" .defaulted (Decoder.optional Decoder.bool),
   field "warnings" .defaulted (Decoder.list Decoder.text)]

def decode : Decoder ResolveAnswer := fun document => do
  let found ← Decoder.record fields document
  .ok
    { path := ← get found "path" Decoder.text ""
      space := ← get found "namespace" (Decoder.optional Decoder.text) none
      external := ← get found "external" Decoder.bool false
      sideEffects := ← get found "side_effects" (Decoder.optional Decoder.bool) none
      warnings := ← get found "warnings" (Decoder.list Decoder.text) [] }

def encode (answer : ResolveAnswer) : Document :=
  .table
    [("path", .text answer.path), ("namespace", .ofOption .text answer.space),
     ("external", .bool answer.external), ("side_effects", .ofOption .bool answer.sideEffects),
     ("warnings", .texts answer.warnings)]

end ResolveAnswer

namespace LoadRequest

def fields : List Decoder.Field :=
  [field "path" .required Decoder.text, field "namespace" .defaulted Decoder.text]

def decode : Decoder LoadRequest := fun document => do
  let found ← Decoder.record fields document
  .ok { path := ← get found "path" Decoder.text ""
        space := ← get found "namespace" Decoder.text Space.file }

def encodeEntries (request : LoadRequest) : List (String × Document) :=
  [("path", .text request.path), ("namespace", .text request.space)]

def encode (request : LoadRequest) : Document := .table request.encodeEntries

end LoadRequest

namespace LoadAnswer

def fields : List Decoder.Field :=
  [field "contents" .required Decoder.text,
   field "loader" .defaulted (Enumeration.decode : Decoder Loader),
   field "resolve_dir" .defaulted (Decoder.optional Decoder.text),
   field "warnings" .defaulted (Decoder.list Decoder.text)]

def decode : Decoder LoadAnswer := fun document => do
  let found ← Decoder.record fields document
  .ok
    { contents := ← get found "contents" Decoder.text ""
      loader := ← get found "loader" Enumeration.decode .js
      resolveDir := ← get found "resolve_dir" (Decoder.optional Decoder.text) none
      warnings := ← get found "warnings" (Decoder.list Decoder.text) [] }

def encode (answer : LoadAnswer) : Document :=
  .table
    [("contents", .text answer.contents), ("loader", Enumeration.encode answer.loader),
     ("resolve_dir", .ofOption .text answer.resolveDir), ("warnings", .texts answer.warnings)]

end LoadAnswer

namespace EndReport

/-- Counts have 64 bits. -/
def count : Decoder Nat := Decoder.natBelow UInt64.size

def fields : List Decoder.Field :=
  [field "succeeded" .required Decoder.bool, field "warning_count" .required count]

def decode : Decoder EndReport := fun document => do
  let found ← Decoder.record fields document
  .ok { succeeded := ← get found "succeeded" Decoder.bool false
        warningCount := ← get found "warning_count" count 0 }

def encodeEntries (report : EndReport) : List (String × Document) :=
  [("succeeded", .bool report.succeeded), ("warning_count", .int report.warningCount)]

def encode (report : EndReport) : Document := .table report.encodeEntries

end EndReport

namespace HookStage

def decode (tagged : Bool) : Decoder HookStage := Decoder.variant tagged ofName?

def encode (stage : HookStage) : Document := .text stage.name

end HookStage

namespace HookFailure

/-- The kinds of failures. -/
inductive Kind where
  | startFailed | handlerFailed | unresolvedLoad | malformedRequest
  deriving DecidableEq, Repr

namespace Kind

def all : List Kind := [.startFailed, .handlerFailed, .unresolvedLoad, .malformedRequest]

def name : Kind → String
  | .startFailed => "plugin_start_failed"
  | .handlerFailed => "handler_failed"
  | .unresolvedLoad => "unresolved_load"
  | .malformedRequest => "malformed_request"

def ofName? (name : String) : Option Kind := all.find? (·.name = name)

/-- A kind by its name; inside tagged documents, its place in the order of kinds serves too. -/
def decode (tagged : Bool) : Decoder Kind
  | .int n =>
    if tagged && decide (0 ≤ n) then
      match all[n.toNat]? with
      | some kind => .ok kind
      | none => .error .invalidValue
    else .error .invalidType
  | document => Decoder.tag ofName? document

end Kind

def plugin : Decoder.Field := field "plugin" .required Decoder.text

def fields : Kind → List Decoder.Field
  | .startFailed => [plugin, field "message" .required Decoder.text]
  | .handlerFailed =>
    [plugin, field "stage" .required (HookStage.decode true),
     field "message" .required Decoder.text]
  | .unresolvedLoad =>
    [field "path" .required Decoder.text, field "namespace" .required Decoder.text]
  | .malformedRequest => [field "message" .required Decoder.text]

/-- Reads the fields of a failure of a kind. -/
def decodeContent (kind : Kind) : Decoder HookFailure := fun document => do
  let found ← Decoder.record (fields kind) document
  let text (name : String) : Except DecodeError String := get found name Decoder.text ""
  match kind with
  | .startFailed => .ok (.startFailed (← text "plugin") (← text "message"))
  | .handlerFailed =>
    .ok (.handlerFailed (← text "plugin")
      (← get found "stage" (HookStage.decode true) .start) (← text "message"))
  | .unresolvedLoad => .ok (.unresolvedLoad (← text "path") (← text "namespace"))
  | .malformedRequest => .ok (.malformedRequest (← text "message"))

def decode (tagged : Bool) : Decoder HookFailure :=
  Decoder.tagged "kind" (Kind.decode tagged) decodeContent

def kind : HookFailure → Kind
  | .startFailed .. => .startFailed
  | .handlerFailed .. => .handlerFailed
  | .unresolvedLoad .. => .unresolvedLoad
  | .malformedRequest .. => .malformedRequest

def encodeContent : HookFailure → List (String × Document)
  | .startFailed plugin message => [("plugin", .text plugin), ("message", .text message)]
  | .handlerFailed plugin stage message =>
    [("plugin", .text plugin), ("stage", stage.encode), ("message", .text message)]
  | .unresolvedLoad path space => [("path", .text path), ("namespace", .text space)]
  | .malformedRequest message => [("message", .text message)]

def encode (failure : HookFailure) : Document :=
  .table (("kind", .text failure.kind.name) :: failure.encodeContent)

/-- The failure with what is shown of it. Of a malformed request only the class of the fault is
told. -/
def summary : HookFailure → Document
  | .malformedRequest text =>
    .table [("error", (malformedRequest (DecodeError.classOf text)).encode)]
  | failure => .table [("error", failure.encode), ("display", .text failure.message)]

end HookFailure

end BundleHost
