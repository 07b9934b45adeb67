import BundleHost.Hook.Basic
import BundleHost.Text.Basic

/-!
# Answers with placeholders

An answer may be given before its request is known: names in braces stand for parts of the request,
and are filled in one after the other.
-/

namespace BundleHost

/-- Replaces the placeholders of names by their values. -/
def Text.fill (values : List (String × String)) (text : String) : String :=
  values.foldl (fun text (name, value) => replace text ("\x7b" ++ name ++ "\x7d") value) text

def ResolveRequest.placeholders (request : ResolveRequest) : List (String × String) :=
  [("specifier", request.specifier), ("importer", request.importer.getD ""),
   ("namespace", request.space), ("resolve_dir", request.resolveDir.getD ""),
   ("kind", request.kind.name)]

def ResolveAnswer.fill (answer : ResolveAnswer) (request : ResolveRequest) : ResolveAnswer :=
  let fill := Text.fill request.placeholders
  { answer with
    path := fill answer.path
    space := answer.space.map fill
    warnings := answer.warnings.map fill }

def LoadRequest.placeholders (request : LoadRequest) : List (String × String) :=
  [("path", request.path), ("namespace", request.space)]

def LoadAnswer.fill (answer : LoadAnswer) (request : LoadRequest) : LoadAnswer :=
  let fill := Text.fill request.placeholders
  { answer with
    contents := fill answer.contents
    resolveDir := answer.resolveDir.map fill
    warnings := answer.warnings.map fill }

end BundleHost
