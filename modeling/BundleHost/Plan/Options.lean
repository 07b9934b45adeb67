import BundleHost.Diagnostic.Basic
import BundleHost.Disk
import BundleHost.Exports
import BundleHost.RunError
import BundleHost.Settings.Basic

/-!
# Options of the engine

The engine has options of its own. Here the settings are put into its terms, together with the
names of the settings that it does not know or whose value it cannot take.
-/

namespace BundleHost

inductive OutputFormat where
  | esm | cjs | iife
  deriving DecidableEq, Repr

/-- Where the engine puts a source map. -/
inductive MapPlacement where
  | inline | file | hidden
  deriving DecidableEq, Repr

/-- What the engine takes the contents of a module for. -/
inductive ModuleType where
  | js | jsx | ts | tsx | json | css | text | base64 | dataUrl | binary | empty | asset
  deriving DecidableEq, Repr

/-- Whether the contents are a script. -/
def ModuleType.isScript (type : ModuleType) : Bool :=
  [.js, .jsx, .ts, .tsx].contains type

/-- Which comments about licences the engine keeps. -/
inductive CommentRule where
  | none | inline
  deriving DecidableEq, Repr

/-- The language levels and runtimes that the output has to suit. -/
inductive TargetList where
  | unrestricted
  | one (target : String)
  | many (targets : List String)
  deriving DecidableEq, Repr

/-- The target list of any number of targets. -/
def TargetList.ofList : List String → TargetList
  | [] => .unrestricted
  | [target] => .one target
  | targets => .many targets

inductive JsxRuntime where
  | classic | automatic
  deriving DecidableEq, Repr

/-- How elements are compiled. -/
structure JsxCompilation where
  runtime : JsxRuntime
  development : Bool
  /-- Whether elements without use can be dropped. -/
  pure : Bool
  importSource : Option String := none
  factory : Option String := none
  fragment : Option String := none
  deriving DecidableEq, Repr

inductive JsxPlan where
  /-- As the engine does it by itself. -/
  | engineDefault
  | preserve
  | compile (compilation : JsxCompilation)
  deriving DecidableEq, Repr

/-- How code without use is dropped. -/
structure ShakePlan where
  /-- Whether annotations in the source count. -/
  annotations : Bool
  /-- Functions whose calls have no effects. -/
  pureNames : List String
  deriving DecidableEq, Repr

/-- A name that a file gives to all modules. -/
structure Injection where
  name : String
  file : String
  deriving DecidableEq, Repr

/-- What the engine is told; an absent value leaves the choice to the engine. -/
structure EngineOptions where
  format : OutputFormat
  platform : Platform
  sourcemap : Option MapPlacement
  minify : Bool
  cwd : String
  /-- Absent if code without use is kept. -/
  shake : Option ShakePlan
  globalName : Option String
  define : OrderedMap String
  keepNames : Option Bool
  dropLabels : List String
  comments : Option CommentRule
  targets : TargetList
  jsx : JsxPlan
  inlineDynamicImports : Option Bool := none
  followSymlinks : Option Bool := none
  tsconfig : Option String := none
  entryFilenames : Option String := none
  chunkFilenames : Option String := none
  assetFilenames : Option String := none
  inject : Option (List Injection) := none
  deriving DecidableEq

/-- A text that is given and not empty. -/
def nonEmpty (text : Option String) : Option String := text.filter (!·.isEmpty)

/-! ## Single options -/

/-- The format of a build; without one it follows the platform. -/
def OutputFormat.forBuild : Format → Platform → OutputFormat
  | .esm, _ => .esm
  | .cjs, _ => .cjs
  | .iife, _ => .iife
  | .platformDefault, .browser => .iife
  | .platformDefault, .node => .cjs
  | .platformDefault, .neutral => .esm

/-- The format of a transform, by default that of modules. -/
def OutputFormat.forTransform : Format → OutputFormat
  | .platformDefault | .esm => .esm
  | .cjs => .cjs
  | .iife => .iife

def MapPlacement.ofSetting : SourceMap → Option MapPlacement
  | .none => none
  | .inline => some .inline
  | .linked | .both => some .file
  | .external => some .hidden

/-- The rule for comments about licences, if the engine has it. -/
def CommentRule.ofSetting : LegalComments → Option CommentRule
  | .none => some .none
  | .inline => some .inline
  | _ => Option.none

/-- What contents are that a loader is chosen for. -/
def ModuleType.ofLoader : Loader → ModuleType
  | .js => .js
  | .jsx => .jsx
  | .ts => .ts
  | .tsx => .tsx
  | .json => .json
  | .css | .globalCss | .localCss => .css
  | .text => .text
  | .base64 => .base64
  | .dataUrl => .dataUrl
  | .binary => .binary
  | .empty => .empty
  | .copy | .file => .asset

namespace SharedSettings

/-- Whether the engine cannot do what is asked about comments. -/
def rejectsComments (settings : SharedSettings) : Bool :=
  settings.legalComments = .eof || settings.legalComments = .linked ||
    settings.legalComments = .external

/-- Whether the language level is one that the engine refuses. -/
def rejectsTarget (settings : SharedSettings) : Bool := settings.target = .es5

/-- The options whose value the engine cannot take. -/
def rejected (settings : SharedSettings) : List String :=
  (if settings.rejectsComments then ["legal_comments"] else []) ++
    if settings.rejectsTarget then ["target"] else []

/-- The language level, then the runtimes with their versions. -/
def targetNames (settings : SharedSettings) : List String :=
  (match settings.target with
    | .esNext | .es5 => []
    | target => [Enumeration.name target]) ++
    settings.engines.map fun engine => Enumeration.name engine.name ++ engine.version

/-- Whether any option about elements was given. -/
def configuresJsx (settings : SharedSettings) : Bool :=
  [SharedOption.jsx, .jsxFactory, .jsxFragment, .jsxImportSource, .jsxDev, .jsxSideEffects].any
    settings.scalars.isSet

def jsxPlan (settings : SharedSettings) : JsxPlan :=
  let development : Bool := settings.value .jsxDev
  let sideEffects : Bool := settings.value .jsxSideEffects
  if settings.configuresJsx then
    match settings.jsx with
    | .preserve => .preserve
    | .automatic => .compile
      { runtime := .automatic, development, pure := !sideEffects
        importSource := nonEmpty (settings.explicit? .jsxImportSource) }
    | .transform => .compile
      { runtime := .classic, development, pure := !sideEffects
        factory := nonEmpty (settings.explicit? .jsxFactory)
        fragment := nonEmpty (settings.explicit? .jsxFragment) }
  else .engineDefault

/-- What is done with code without use, which is dropped when bundling unless settings tell. -/
def shakePlan (settings : SharedSettings) (bundling : Bool) : Option ShakePlan :=
  let enabled :=
    match settings.treeShaking with
    | .disabled => false
    | .enabled => true
    | .whenBundling => bundling
  let ignoreAnnotations : Bool := settings.value .ignoreAnnotations
  if enabled then some ⟨!ignoreAnnotations, settings.pureNames⟩ else none

/-- The engine options that are made of shared settings. -/
def engineOptions (settings : SharedSettings) (format : OutputFormat) (cwd : String)
    (bundling : Bool) : EngineOptions where
  format
  platform := settings.platform
  sourcemap := MapPlacement.ofSetting settings.sourcemap
  minify := settings.minifyAny
  cwd
  shake := settings.shakePlan bundling
  globalName := nonEmpty (settings.explicit? .globalName)
  define := settings.define
  keepNames := settings.explicit? .keepNames
  dropLabels := settings.dropLabels
  comments := CommentRule.ofSetting settings.legalComments
  targets := .ofList settings.targetNames
  jsx := settings.jsxPlan

/-- The warning that the engine minifies everything where only a part was asked for. -/
def minifyWarning (settings : SharedSettings) : List Diagnostic :=
  if settings.minifyAny &&
      !(settings.minifyWhitespace && settings.minifyIdentifiers && settings.minifySyntax) then
    [.warning .unsupportedOption
      "rolldown minifies whitespace, identifiers and syntax together; all three are enabled"]
  else []

end SharedSettings

/-! ## Options without effect -/

/-- Options that only affect how the host shows diagnostics. -/
def presentationOptions : List String := ["color", "log_level", "log_limit", "log_override"]

/-- Shared options that the engine knows. -/
def mappedSharedOptions : List String :=
  ["format", "platform", "sourcemap", "minify_whitespace", "minify_identifiers", "minify_syntax",
   "banner", "footer", "global_name", "define", "tree_shaking", "ignore_annotations", "pure",
   "keep_names", "drop_labels", "legal_comments", "target", "engines", "jsx", "jsx_factory",
   "jsx_fragment", "jsx_import_source", "jsx_dev", "jsx_side_effects"]

/-- Options of builds that the engine knows. -/
def mappedBuildOptions : List String :=
  ["bundle", "packages", "external", "entry_points", "abs_working_dir", "resolve_dir", "loader",
   "sourcefile", "splitting", "preserve_symlinks", "tsconfig", "entry_names", "chunk_names",
   "asset_names", "inject"]

/-- Options of transforms that the engine knows. -/
def mappedTransformOptions : List String := ["loader", "sourcefile"]

/-- Of the options given, those without effect: rejected ones, and those that neither the host nor
the engine knows. -/
def ignoredOptions (given mapped rejected : List String) : List String :=
  given.filter fun name =>
    rejected.contains name ||
      !(presentationOptions.contains name || mappedSharedOptions.contains name ||
        mapped.contains name)

/-- The warning about options without effect, if there are any. -/
def ignoredWarning (given mapped rejected : List String) : List Diagnostic :=
  match ignoredOptions given mapped rejected with
  | [] => []
  | names => [.ofIgnored names]

/-! ## Options of builds -/

/-- A template for file names in the engine's form: without the source directory, and with an
ending. -/
def filenameTemplate (template ending : String) : String :=
  Text.replace (Text.replace template "[dir]/" "") "[dir]" "" ++ ending

variable [RegexEngine]

/-- The names that a file gives to all modules. -/
def injectFile (disk : Disk) (path : String) : Except RunError (List Injection) :=
  match disk.readText path with
  | .ok text => .ok ((Exports.names text).map fun name => ⟨name, path⟩)
  | .error fault =>
    .error (.configuration ("cannot read inject file '" ++ path ++ "': " ++ fault.message)
      (some "inject paths are relative to abs_working_dir"))

def injectFiles (disk : Disk) : List String → Except RunError (List Injection)
  | [] => .ok []
  | path :: rest => do
    let names ← injectFile disk path
    let later ← injectFiles disk rest
    .ok (names ++ later)

namespace BuildSettings

/-- Adds what only builds tell the engine; paths of injected files are relative to `cwd`. -/
def extendOptions (settings : BuildSettings) (disk : Disk) (cwd : String)
    (options : EngineOptions) : Except RunError EngineOptions := do
  let splitting : Option Bool := settings.explicit? .splitting
  let template (name : Option String) (ending : String) : Option String :=
    name.map (filenameTemplate · ending)
  let inject ←
    if settings.inject.isEmpty then .ok none
    else (injectFiles disk (settings.inject.map (Path.join cwd))).map some
  .ok
    { options with
      inlineDynamicImports := splitting.map (!·)
      followSymlinks := if settings.preserveSymlinks then some false else none
      tsconfig := nonEmpty (settings.explicit? .tsconfig)
      entryFilenames := template (settings.explicit? .entryNames) ".js"
      chunkFilenames := template (settings.explicit? .chunkNames) ".js"
      assetFilenames := template (settings.explicit? .assetNames) "[extname]"
      inject }

end BuildSettings

end BundleHost
