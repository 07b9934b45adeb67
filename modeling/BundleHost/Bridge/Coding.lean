import BundleHost.Bridge.Basic
import BundleHost.Plan.Coding

/-!
# Answers of the bridge as documents
-/

namespace BundleHost

/-- Whether a module has side effects, in terms of the engine. -/
def sideEffectsName : Bool → String
  | true => "True"
  | false => "False"

def Route.encode : Route → Document
  | .found resolved => .table
    [("route", .text "done"), ("id", .text resolved.id), ("external", .bool resolved.external),
     ("side_effects", .ofOption (fun b => .text (sideEffectsName b)) resolved.sideEffects)]
  | .engine => .table [("route", .text "none")]
  | .delegate importer => .table [("route", .text "delegate"), ("importer", .text importer)]
  | .failed failure => .table [("route", .text "error"), ("message", .text failure.message)]

def Loaded.encode : Loaded → Document
  | .contents code type => .table
    [("route", .text "done"), ("code", .text code), ("module_type", .text type.name)]
  | .engine => .table [("route", .text "none")]
  | .failed failure => .table [("route", .text "error"), ("message", .text failure.message)]

namespace ImportKind

def all : List ImportKind :=
  [.importStatement, .hotAccept, .dynamicImport, .requireCall, .atRule, .urlImport, .newUrl]

def name : ImportKind → String
  | .importStatement => "import"
  | .hotAccept => "hot-accept"
  | .dynamicImport => "dynamic-import"
  | .requireCall => "require"
  | .atRule => "at-import"
  | .urlImport => "url-import"
  | .newUrl => "new-url"

def ofName? (name : String) : Option ImportKind := all.find? (·.name = name)

end ImportKind

end BundleHost
