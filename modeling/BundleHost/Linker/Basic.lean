import BundleHost.Linker.Chunk
import BundleHost.Regex.Engine

/-!
# The linker

A compiler for modules that consist of import statements and calls: each of its inputs gets a chunk
of its own. It is the compiler of the program that is run.
-/

namespace BundleHost

namespace Linker

/-- The name of the chunk of a root. -/
def chunkName (id : String) : String :=
  if id = ModuleRef.sourceId then Plan.sourceName else (Path.stem? id).getD "input"

/-- The file that a chunk is written to. -/
def fileName (options : EngineOptions) (id : String) : String :=
  Text.replace (options.entryFilenames.getD "[name].js") "[name]" (chunkName id)

def asset (graph : ModuleGraph) (options : EngineOptions) (root : ModuleNode) : Asset :=
  ⟨fileName options root.id, .chunk (graph.chunkCode options root) (some root.id) true⟩

/-- The chunks of roots by the names of their files. -/
def assets (graph : ModuleGraph) (options : EngineOptions) (roots : List String) : List Asset :=
  let named := (roots.filterMap graph.node?).map fun root =>
    let asset := asset graph options root
    (asset.path, asset)
  (Entries.sort named).map (·.2)

/-- The answer about a graph that was loaded. -/
def answer (graph : ModuleGraph) (options : EngineOptions) (roots : List String) : EngineAnswer :=
  if graph.errors.isEmpty then .bundle (assets graph options roots) graph.warnings
  else .errors graph.errors

/-- The module that an entry leads to, or what has to be reported about it. -/
def rootOf (specifier : String) : Session.Resolution → Except (List Report) PendingModule
  | .target (.inside id) sideEffects => .ok ⟨id, sideEffects, none⟩
  | .target (.outside _) _ => .error [.externalEntry specifier]
  | .missing => .error [.unresolvedEntry specifier]
  | .failed => .error []

/-- The roots of a run in order, or reports about all that were not found. -/
def roots (session : Session) :
    List EntryInput → Dialogue (Except (List Report) (List PendingModule))
  | [] => return .ok []
  | input :: rest => do
    let first := rootOf input.specifier (← session.resolveEntry input.specifier)
    let later ← roots session rest
    return match first, later with
      | .ok root, .ok roots => .ok (root :: roots)
      | .ok _, .error reports => .error reports
      | .error report, .ok _ => .error report
      | .error report, .error reports => .error (report ++ reports)

/-- Loads what the inputs lead to and links it, with `fuel` modules at most. -/
def compiler (disk : Disk) (fuel : Nat) : Compiler := fun options inputs => do
  let session : Session := ⟨disk, options.cwd⟩
  match ← roots session inputs with
  | .error reports => return .errors reports
  | .ok pending =>
    let graph ← ModuleGraph.grow session {} fuel pending
    return answer graph options (pending.map (·.id)).eraseDups

variable [RegexEngine] {m : Type → Type} [Monad m]

/-- The linker as an engine for builds. -/
def buildEngine (processDir : String) (disk : Disk) (fuel : Nat) : Engine m BuildSettings :=
  (compiler disk fuel).buildEngine processDir disk

/-- The linker as an engine for transforms. -/
def transformEngine (processDir : String) (disk : Disk) (fuel : Nat) :
    Engine m TransformSettings :=
  (compiler disk fuel).transformEngine processDir

end Linker

end BundleHost
