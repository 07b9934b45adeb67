import BundleHost.Space
import BundleHost.Text.Basic

/-!
# Module identifiers

The engine knows a module by a text. Modules on disk go by their paths, those of other namespaces
by NUL, the namespace, a colon and the path, so that both parts can be read back.
-/

namespace BundleHost

/-- A module by its namespace and its path. -/
structure ModuleRef where
  space : String
  path : String
  deriving DecidableEq, Repr

namespace ModuleRef

/-- The identifier of the source text that is passed to a run. -/
def sourceId : String := "<stdin>"

/-- What precedes the namespace in an identifier. -/
def mark : Char := '\x00'

/-- What stands between namespace and path in an identifier. -/
def separator : Char := ':'

/-- Whether an identifier begins like those of modules that are not on disk. -/
def isMarked (id : String) : Bool := id.toList.head? = some mark

/-- The module with an identifier. -/
def ofId (id : String) : ModuleRef :=
  match id.toList with
  | c :: rest =>
    if c = mark then
      match Text.splitFirst? separator rest with
      | some (space, path) => ⟨String.ofList space, String.ofList path⟩
      | none => ⟨Space.file, id⟩
    else ⟨Space.file, id⟩
  | [] => ⟨Space.file, id⟩

def toId (ref : ModuleRef) : String :=
  if Space.isFile ref.space then ref.path
  else String.ofList (mark :: ref.space.toList ++ separator :: ref.path.toList)

end ModuleRef

end BundleHost
