import BundleHost.Diagnostic.Coding
import BundleHost.Plan.Basic

/-!
# Plans as documents

A written plan shows what the engine is told and what the host does itself. What is left to the
engine is null.
-/

namespace BundleHost

def OutputFormat.name : OutputFormat → String
  | .esm => "Esm"
  | .cjs => "Cjs"
  | .iife => "Iife"

/-- The name of a platform in terms of the engine. -/
def Platform.engineName : Platform → String
  | .browser => "Browser"
  | .node => "Node"
  | .neutral => "Neutral"

def MapPlacement.name : MapPlacement → String
  | .inline => "Inline"
  | .file => "File"
  | .hidden => "Hidden"

def ModuleType.name : ModuleType → String
  | .js => "Js"
  | .jsx => "Jsx"
  | .ts => "Ts"
  | .tsx => "Tsx"
  | .json => "Json"
  | .css => "Css"
  | .text => "Text"
  | .base64 => "Base64"
  | .dataUrl => "Dataurl"
  | .binary => "Binary"
  | .empty => "Empty"
  | .asset => "Asset"

def CommentRule.name : CommentRule → String
  | .none => "None"
  | .inline => "Inline"

def JsxRuntime.name : JsxRuntime → String
  | .classic => "classic"
  | .automatic => "automatic"

/-- A list of texts, null if it is empty. -/
def Document.textsOrNull (items : List String) : Document :=
  if items.isEmpty then .null else .texts items

def TargetList.encode : TargetList → Document
  | .unrestricted => .null
  | .one target => .text target
  | .many targets => .texts targets

def JsxPlan.encode : JsxPlan → Document
  | .engineDefault => .null
  | .preserve => .text "preserve"
  | .compile c => .table
    [("runtime", .text c.runtime.name), ("development", .bool c.development),
     ("pure", .bool c.pure), ("import_source", .ofOption .text c.importSource),
     ("pragma", .ofOption .text c.factory), ("pragma_frag", .ofOption .text c.fragment)]

/-- Names in order, each once. -/
def sortedNames (names : List String) : List String :=
  (Entries.sort (Entries.distinct (names.map fun name => (name, ())))).map (·.1)

def ShakePlan.encode (plan : ShakePlan) : Document :=
  .table
    [("annotations", .bool plan.annotations),
     ("pure", .textsOrNull (sortedNames plan.pureNames))]

def Injection.encode (injection : Injection) : Document :=
  .list [.text injection.name, .null, .text injection.file]

namespace EngineOptions

variable (options : EngineOptions)

/-- The language level and the compilation of elements, null if both are left to the engine. -/
def encodeTransform : Document :=
  match options.targets, options.jsx with
  | .unrestricted, .engineDefault => .null
  | targets, jsx => .table [("target", targets.encode), ("jsx", jsx.encode)]

def encodeDefine : Document :=
  if options.define.isEmpty then .null else .pairs .text options.define

def encode : Document :=
  .table
    [("format", .text options.format.name), ("platform", .text options.platform.engineName),
     ("sourcemap", .ofOption (fun map => .text map.name) options.sourcemap),
     ("minify", if options.minify then .bool true else .null), ("cwd", .text options.cwd),
     ("treeshake", (options.shake.map ShakePlan.encode).getD (.bool false)),
     ("name", .ofOption .text options.globalName), ("define", options.encodeDefine),
     ("keep_names", .ofOption .bool options.keepNames),
     ("drop_labels", .textsOrNull options.dropLabels),
     ("legal_comments", .ofOption (fun rule => .text rule.name) options.comments),
     ("transform", options.encodeTransform),
     ("inline_dynamic_imports", .ofOption .bool options.inlineDynamicImports),
     ("symlinks", .ofOption .bool options.followSymlinks),
     ("tsconfig", .ofOption .text options.tsconfig),
     ("entry_filenames", .ofOption .text options.entryFilenames),
     ("chunk_filenames", .ofOption .text options.chunkFilenames),
     ("asset_filenames", .ofOption .text options.assetFilenames),
     ("inject", .ofOption (fun all => .list (all.map Injection.encode)) options.inject)]

end EngineOptions

def SourceEntry.encode (entry : SourceEntry) : Document :=
  .table
    [("source", .text entry.source), ("loader", Enumeration.encode entry.loader),
     ("resolve_dir", .text entry.resolveDir)]

def Plan.encode (plan : Plan) : Document :=
  .table
    [("entry", plan.entry.encode), ("entry_points", .texts plan.entryPoints),
     ("banner", .ofOption .text plan.banner), ("footer", .ofOption .text plan.footer),
     ("sourcefile", .ofOption .text plan.sourcefile), ("bundling", .bool plan.bundling),
     ("warnings", .list (plan.warnings.map Diagnostic.encode)),
     ("options", plan.options.encode)]

end BundleHost
