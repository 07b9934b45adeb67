import BundleHost.Diagnostic.Coding
import BundleHost.Text.Utf8

/-!
# Results of a run

The text generated for the source that was passed in, all files that were generated, and warnings.
-/

namespace BundleHost

structure OutputFile where
  path : String
  contents : List UInt8
  deriving DecidableEq, Repr

namespace OutputFile

/-- The contents as text, with replacement characters where they are no UTF-8. -/
def text (file : OutputFile) : String := Text.Utf8.decodeLossy file.contents

def byte : Decoder UInt8 := fun document => do
  .ok (UInt8.ofNat (← Decoder.natBelow 256 document))

def fields : List Decoder.Field :=
  [Decoder.field "path" .required Decoder.text,
   Decoder.field "contents" .required (Decoder.list byte)]

def decode : Decoder OutputFile := fun document => do
  let found ← Decoder.record fields document
  .ok { path := ← Decoder.get found "path" Decoder.text ""
        contents := ← Decoder.get found "contents" (Decoder.list byte) [] }

def encode (file : OutputFile) : Document :=
  .table
    [("path", .text file.path), ("contents", .list (file.contents.map fun b => .int b.toNat))]

end OutputFile

structure RunResult where
  /-- The code generated for the source text. -/
  outputText : String := ""
  warnings : List Diagnostic := []
  outputs : List OutputFile := []
  deriving DecidableEq, Repr

namespace RunResult

def hasWarnings (result : RunResult) : Bool := !result.warnings.isEmpty

def warningsOf (result : RunResult) (kind : DiagnosticKind) : List Diagnostic :=
  result.warnings.filter (·.kind = kind)

/-- The first file with a path. -/
def output? (result : RunResult) (path : String) : Option OutputFile :=
  result.outputs.find? (·.path = path)

def fields : List Decoder.Field :=
  [Decoder.field "output_text" .required Decoder.text,
   Decoder.field "warnings" .required (Decoder.list Diagnostic.decode),
   Decoder.field "outputs" .required (Decoder.list OutputFile.decode)]

def decode : Decoder RunResult := fun document => do
  let found ← Decoder.record fields document
  .ok { outputText := ← Decoder.get found "output_text" Decoder.text ""
        warnings := ← Decoder.get found "warnings" (Decoder.list Diagnostic.decode) []
        outputs := ← Decoder.get found "outputs" (Decoder.list OutputFile.decode) [] }

def encode (result : RunResult) : Document :=
  .table
    [("output_text", .text result.outputText),
     ("warnings", .list (result.warnings.map Diagnostic.encode)),
     ("outputs", .list (result.outputs.map OutputFile.encode))]

/-- The result with its files as texts and what is shown of its warnings. -/
def summary (result : RunResult) : Document :=
  .table
    [("output_text", .text result.outputText),
     ("warnings", .list (result.warnings.map Diagnostic.summary)),
     ("outputs",
       .list (result.outputs.map fun file => .list [.text file.path, .text file.text])),
     ("has_warnings", .bool result.hasWarnings)]

end RunResult

end BundleHost
