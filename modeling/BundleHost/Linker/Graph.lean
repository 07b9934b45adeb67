import BundleHost.Linker.Script

/-!
# Module graphs

The modules that can be reached from some roots, each with what its references lead to. Where they
lead and what modules contain is asked of the bridge first and of the disk second.
-/

namespace BundleHost

/-- The module that a reference leads to. -/
inductive LinkTarget where
  | inside (id : String)
  /-- A module that stays outside the output. -/
  | outside (id : String)
  deriving DecidableEq, Repr

/-- A module with the targets of its references. -/
structure ModuleNode where
  id : String
  /-- What is known about its effects from the resolution that led to it. -/
  sideEffects : Option Bool
  script : Script
  targets : List (Reference × LinkTarget)
  deriving DecidableEq, Repr

/-- A module that has to be loaded, and the reference that led to it first. -/
structure PendingModule where
  id : String
  sideEffects : Option Bool
  origin : Option (String × Reference)
  deriving DecidableEq, Repr

structure ModuleGraph where
  nodes : List ModuleNode := []
  errors : List Report := []
  warnings : List Report := []
  deriving DecidableEq, Repr

/-- What the linker works with during a run. -/
structure Session where
  disk : Disk
  cwd : String

namespace ModuleGraph

def node? (graph : ModuleGraph) (id : String) : Option ModuleNode :=
  graph.nodes.find? (·.id = id)

def add (graph : ModuleGraph) (node : ModuleNode) : ModuleGraph :=
  { graph with nodes := graph.nodes ++ [node] }

def fail (graph : ModuleGraph) (reports : List Report) : ModuleGraph :=
  { graph with errors := graph.errors ++ reports }

end ModuleGraph

/-! ## Reports -/

/-- An identifier as reports about loading show it. -/
def displayId (cwd id : String) : String :=
  if Path.isAbsolute id then Path.relativeTo cwd id else id

namespace Report

def unresolvedImport (importer : String) (reference : Reference) : Report :=
  plain "UNRESOLVED_IMPORT" .warning
    ("Could not resolve '" ++ reference.specifier ++ "' in " ++ importer)
    (some ⟨importer, reference.line, reference.column⟩) none

def unresolvedEntry (specifier : String) : Report :=
  plain "UNRESOLVED_ENTRY" .error ("Cannot resolve entry module " ++ specifier ++ ".")
    none (some specifier)

def externalEntry (specifier : String) : Report :=
  plain "UNRESOLVED_ENTRY" .error ("Entry module \"" ++ specifier ++ "\" cannot be external.")
    none (some specifier)

def parseFailed (id : String) (line column : Nat) : Report :=
  plain "PARSE_ERROR" .error "Parse failed, got: \"Unexpected token\""
    (some ⟨id, line, column⟩) none

def unloadable (cwd : String) (pending : PendingModule) (fault : DiskFault) : Report :=
  let importer :=
    match pending.origin with
    | some (id, _) => " (imported by " ++ displayId cwd id ++ ")"
    | none => ""
  plain "UNLOADABLE_DEPENDENCY" .error
    ("Could not load " ++ displayId cwd pending.id ++ importer ++ " - " ++ fault.message ++ ".")
    (pending.origin.map fun (id, reference) => ⟨id, reference.line, reference.column⟩) none

end Report

namespace Session

variable (session : Session)

/-- The directory in which an importer's files are looked for. -/
def searchDir (importer : String) : String :=
  match Path.parent? importer with
  | some dir => if dir.isEmpty then session.cwd else dir
  | none => session.cwd

/-- The file that a specifier names from a directory. -/
def fileIn? (dir specifier : String) : Option String :=
  let path := Path.clean (Path.join dir specifier)
  if session.disk.isFile path then some path else none

/-- The file that a specifier names for an importer; packages are not looked for. -/
def file? (importer specifier : String) : Option String :=
  if isBareSpecifier specifier then none else session.fileIn? (session.searchDir importer) specifier

/-- Where a reference leads, and whether its module has effects. -/
inductive Resolution where
  | target (target : LinkTarget) (sideEffects : Option Bool)
  | missing
  | failed
  deriving DecidableEq, Repr

/-- The resolution that a route stands for, `searches` giving the files that may be meant. -/
def settle (route : Route) (searches : List (Option String)) : Resolution :=
  match route with
  | .found resolved =>
    if resolved.external then .target (.outside resolved.id) resolved.sideEffects
    else .target (.inside resolved.id) resolved.sideEffects
  | .failed _ => .failed
  | .engine | .delegate _ =>
    match searches.findSome? id with
    | some path => .target (.inside path) none
    | none => .missing

/-- The files that a reference of an importer may mean, the likeliest first. -/
def searches (importer specifier : String) : Route → List (Option String)
  | .delegate other => [session.file? other specifier, session.file? importer specifier]
  | _ => [session.file? importer specifier]

def resolve (importer : String) (reference : Reference) : Dialogue Resolution := do
  let route ← Dialogue.askRoute reference.specifier (some importer)
    (ResolveKind.ofImport false reference.kind)
  return settle route (session.searches importer reference.specifier route)

/-- Where a root's specifier leads; a bare one may name a file, too. -/
def resolveEntry (specifier : String) : Dialogue Resolution := do
  let route ← Dialogue.askRoute specifier none .entryPoint
  return settle route [session.fileIn? session.cwd specifier]

def resolveAll (importer : String) :
    List Reference → Dialogue (List (Reference × Resolution))
  | [] => return []
  | reference :: rest => do
    let resolution ← session.resolve importer reference
    let later ← resolveAll importer rest
    return (reference, resolution) :: later

/-- The script of a module, or what has to be reported about it. -/
def loadScript (pending : PendingModule) : Dialogue (Except (List Report) Script) := do
  let parse (text : String) : Except (List Report) Script :=
    match Script.parse text with
    | .ok script => .ok script
    | .error (line, column) => .error [.parseFailed pending.id line column]
  match ← Dialogue.askContents pending.id with
  | .failed _ => return .error []
  | .contents code type => return if type.isScript then parse code else .ok .empty
  | .engine =>
    return match session.disk.readText pending.id with
      | .ok text => parse text
      | .error fault => .error [.unloadable session.cwd pending fault]

end Session

namespace ModuleGraph

/-- The targets of resolved references; an import that was not found stays outside. -/
def targetsOf (found : List (Reference × Session.Resolution)) : List (Reference × LinkTarget) :=
  found.filterMap fun (reference, resolution) =>
    match resolution with
    | .target target _ => some (reference, target)
    | .missing => some (reference, .outside reference.specifier)
    | .failed => none

/-- Reports about references that were not found. -/
def missingOf (importer : String) (found : List (Reference × Session.Resolution)) : List Report :=
  found.filterMap fun (reference, resolution) =>
    if resolution = .missing then some (.unresolvedImport importer reference) else none

/-- The modules that have to be loaded for resolved references. -/
def pendingOf (importer : String) (found : List (Reference × Session.Resolution)) :
    List PendingModule :=
  found.filterMap fun (reference, resolution) =>
    match resolution with
    | .target (.inside id) sideEffects => some ⟨id, sideEffects, some (importer, reference)⟩
    | _ => none

/-- Loads the modules of a queue and those that they lead to, each once and `fuel` at most. One
with a reference at which a plugin failed is left out. -/
def grow (session : Session) (graph : ModuleGraph) :
    Nat → List PendingModule → Dialogue ModuleGraph
  | 0, _ => return graph
  | _, [] => return graph
  | fuel + 1, pending :: queue => do
    if graph.nodes.any (·.id = pending.id) then grow session graph fuel queue
    else
      match ← session.loadScript pending with
      | .error reports => grow session (graph.fail reports) fuel queue
      | .ok script =>
        let found ← session.resolveAll pending.id script.references
        if found.any (·.2 = .failed) then grow session graph fuel queue
        else
          let node : ModuleNode :=
            { id := pending.id, sideEffects := pending.sideEffects, script
              targets := targetsOf found }
          let graph := graph.add node
          let graph := { graph with warnings := graph.warnings ++ missingOf pending.id found }
          grow session graph fuel (queue ++ pendingOf pending.id found)

end ModuleGraph

end BundleHost
