import BundleHost.Linker.Graph

/-!
# Chunks

A chunk is the code of one root: imports of the modules outside, then the modules of the graph,
each behind those that it imports.
-/

namespace BundleHost

/-- What a depth-first walk over a graph has met. -/
structure LinkOrder where
  /-- The modules that were entered, the last one first. -/
  entered : List String := []
  /-- The modules in the order in which they were left. -/
  modules : List ModuleNode := []
  /-- Modules outside in the order in which they were met. -/
  externals : List String := []
  deriving DecidableEq, Repr

namespace LinkOrder

def meet (order : LinkOrder) (id : String) : LinkOrder :=
  if order.externals.contains id then order
  else { order with externals := order.externals ++ [id] }

def enter (order : LinkOrder) (id : String) : LinkOrder :=
  { order with entered := id :: order.entered }

def leave (order : LinkOrder) (node : ModuleNode) : LinkOrder :=
  { order with modules := order.modules ++ [node] }

end LinkOrder

namespace ModuleNode

/-- The targets that have to be there before the module runs. -/
def dependencies (node : ModuleNode) : List LinkTarget :=
  (node.targets.filter (·.1.kind = .importStatement)).map (·.2)

/-- The name under which the code refers to the target of a reference. -/
def rename (node : ModuleNode) (reference : Reference) : String :=
  match node.targets.find? (·.1 = reference) with
  | some (_, .outside id) => id
  | _ => reference.specifier

def code (node : ModuleNode) : String := node.script.render node.rename

end ModuleNode

namespace ModuleGraph

/-- Whether a module that is imported for its effects only is part of the output. -/
def keeps (shaking : Bool) (node : ModuleNode) : Bool :=
  !shaking || node.sideEffects ≠ some false

/-- Walks over targets depth first; no path of a graph is deeper than it has modules. -/
def walk (graph : ModuleGraph) (shaking : Bool) :
    Nat → List LinkTarget → LinkOrder → LinkOrder
  | 0, _, order => order
  | _, [], order => order
  | depth + 1, .outside id :: rest, order =>
    walk graph shaking (depth + 1) rest (order.meet id)
  | depth + 1, .inside id :: rest, order =>
    match (graph.node? id).filter (keeps shaking) with
    | none => walk graph shaking (depth + 1) rest order
    | some node =>
      if order.entered.contains id then walk graph shaking (depth + 1) rest order
      else
        let below := walk graph shaking depth node.dependencies (order.enter id)
        walk graph shaking (depth + 1) rest (below.leave node)
termination_by depth targets => (depth, targets.length)

/-- The walk from a root, which is always part of the output. -/
def linkOrder (graph : ModuleGraph) (shaking : Bool) (root : ModuleNode) : LinkOrder :=
  (graph.walk shaking (graph.nodes.length + 1) root.dependencies
    (LinkOrder.enter {} root.id)).leave root

end ModuleGraph

/-- The line that imports a module outside, if the format has one. -/
def OutputFormat.importLine : OutputFormat → String → String
  | .esm, id => "import \"" ++ id ++ "\";\n"
  | .cjs, id => "require(\"" ++ id ++ "\");\n"
  | .iife, _ => ""

/-- The code of a root. -/
def ModuleGraph.chunkCode (graph : ModuleGraph) (options : EngineOptions) (root : ModuleNode) :
    String :=
  let order := graph.linkOrder options.shake.isSome root
  String.join (order.externals.map options.format.importLine) ++
    String.join (order.modules.map ModuleNode.code)

end BundleHost
