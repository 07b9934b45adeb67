import BundleHost.Settings.Slots

/-!
# The options

The three families of scalar options: those shared by builds and transforms, those of builds, and
those of transforms.
-/

namespace BundleHost

/-- Options of builds and of transforms. -/
inductive SharedOption where
  | color | logLevel | logLimit | sourcemap | sourceRoot | sourcesContent | target | platform
  | format | globalName | mangleProps | reserveProps | mangleQuoted | drop | minifyWhitespace
  | minifyIdentifiers | minifySyntax | lineLimit | charset | treeShaking | ignoreAnnotations
  | legalComments | keepNames | jsx | jsxFactory | jsxFragment | jsxImportSource | jsxDev
  | jsxSideEffects | tsconfigRaw | banner | footer
  deriving DecidableEq, Repr

namespace SharedOption

def all : List SharedOption :=
  [.color, .logLevel, .logLimit, .sourcemap, .sourceRoot, .sourcesContent, .target, .platform,
   .format, .globalName, .mangleProps, .reserveProps, .mangleQuoted, .drop, .minifyWhitespace,
   .minifyIdentifiers, .minifySyntax, .lineLimit, .charset, .treeShaking, .ignoreAnnotations,
   .legalComments, .keepNames, .jsx, .jsxFactory, .jsxFragment, .jsxImportSource, .jsxDev,
   .jsxSideEffects, .tsconfigRaw, .banner, .footer]

def name : SharedOption → String
  | .color => "color"
  | .logLevel => "log_level"
  | .logLimit => "log_limit"
  | .sourcemap => "sourcemap"
  | .sourceRoot => "source_root"
  | .sourcesContent => "sources_content"
  | .target => "target"
  | .platform => "platform"
  | .format => "format"
  | .globalName => "global_name"
  | .mangleProps => "mangle_props"
  | .reserveProps => "reserve_props"
  | .mangleQuoted => "mangle_quoted"
  | .drop => "drop"
  | .minifyWhitespace => "minify_whitespace"
  | .minifyIdentifiers => "minify_identifiers"
  | .minifySyntax => "minify_syntax"
  | .lineLimit => "line_limit"
  | .charset => "charset"
  | .treeShaking => "tree_shaking"
  | .ignoreAnnotations => "ignore_annotations"
  | .legalComments => "legal_comments"
  | .keepNames => "keep_names"
  | .jsx => "jsx"
  | .jsxFactory => "jsx_factory"
  | .jsxFragment => "jsx_fragment"
  | .jsxImportSource => "jsx_import_source"
  | .jsxDev => "jsx_dev"
  | .jsxSideEffects => "jsx_side_effects"
  | .tsconfigRaw => "tsconfig_raw"
  | .banner => "banner"
  | .footer => "footer"

abbrev type : SharedOption → ScalarType
  | .color => .choice .color
  | .logLevel => .choice .logLevel
  | .logLimit => .count
  | .sourcemap => .choice .sourcemap
  | .sourceRoot => .text
  | .sourcesContent => .choice .sourcesContent
  | .target => .choice .target
  | .platform => .choice .platform
  | .format => .choice .format
  | .globalName => .text
  | .mangleProps => .text
  | .reserveProps => .text
  | .mangleQuoted => .choice .mangleQuoted
  | .drop => .choice .drop
  | .minifyWhitespace => .flag
  | .minifyIdentifiers => .flag
  | .minifySyntax => .flag
  | .lineLimit => .count
  | .charset => .choice .charset
  | .treeShaking => .choice .treeShaking
  | .ignoreAnnotations => .flag
  | .legalComments => .choice .legalComments
  | .keepNames => .flag
  | .jsx => .choice .jsx
  | .jsxFactory => .text
  | .jsxFragment => .text
  | .jsxImportSource => .text
  | .jsxDev => .flag
  | .jsxSideEffects => .flag
  | .tsconfigRaw => .text
  | .banner => .text
  | .footer => .text

end SharedOption

instance : OptionFamily SharedOption where
  all := SharedOption.all
  mem_all o := by cases o <;> simp [SharedOption.all]
  name := SharedOption.name
  nodup_names := by decide +kernel
  type := SharedOption.type
  default
    | o => o.type.default

/-- Options of builds only. -/
inductive BuildOption where
  | bundle | write | splitting | preserveSymlinks | metafile | allowOverwrite | outfile | outdir
  | outbase | absWorkingDir | publicPath | tsconfig | entryNames | chunkNames | assetNames
  | packages | loader | sourcefile | resolveDir
  deriving DecidableEq, Repr

namespace BuildOption

def all : List BuildOption :=
  [.bundle, .write, .splitting, .preserveSymlinks, .metafile, .allowOverwrite, .outfile, .outdir,
   .outbase, .absWorkingDir, .publicPath, .tsconfig, .entryNames, .chunkNames, .assetNames,
   .packages, .loader, .sourcefile, .resolveDir]

def name : BuildOption → String
  | .bundle => "bundle"
  | .write => "write"
  | .splitting => "splitting"
  | .preserveSymlinks => "preserve_symlinks"
  | .metafile => "metafile"
  | .allowOverwrite => "allow_overwrite"
  | .outfile => "outfile"
  | .outdir => "outdir"
  | .outbase => "outbase"
  | .absWorkingDir => "abs_working_dir"
  | .publicPath => "public_path"
  | .tsconfig => "tsconfig"
  | .entryNames => "entry_names"
  | .chunkNames => "chunk_names"
  | .assetNames => "asset_names"
  | .packages => "packages"
  | .loader => "loader"
  | .sourcefile => "sourcefile"
  | .resolveDir => "resolve_dir"

abbrev type : BuildOption → ScalarType
  | .bundle => .flag
  | .write => .flag
  | .splitting => .flag
  | .preserveSymlinks => .flag
  | .metafile => .flag
  | .allowOverwrite => .flag
  | .outfile => .text
  | .outdir => .text
  | .outbase => .text
  | .absWorkingDir => .text
  | .publicPath => .text
  | .tsconfig => .text
  | .entryNames => .text
  | .chunkNames => .text
  | .assetNames => .text
  | .packages => .choice .packages
  | .loader => .choice .loader
  | .sourcefile => .text
  | .resolveDir => .text

end BuildOption

instance : OptionFamily BuildOption where
  all := BuildOption.all
  mem_all o := by cases o <;> simp [BuildOption.all]
  name := BuildOption.name
  nodup_names := by decide +kernel
  type := BuildOption.type
  default
    | o => o.type.default

/-- Options of transforms only. The loader is `jsx` by default, unlike that of builds. -/
inductive TransformOption where
  | sourcefile | loader
  deriving DecidableEq, Repr

namespace TransformOption

def all : List TransformOption :=
  [.sourcefile, .loader]

def name : TransformOption → String
  | .sourcefile => "sourcefile"
  | .loader => "loader"

abbrev type : TransformOption → ScalarType
  | .sourcefile => .text
  | .loader => .choice .loader

end TransformOption

instance : OptionFamily TransformOption where
  all := TransformOption.all
  mem_all o := by cases o <;> simp [TransformOption.all]
  name := TransformOption.name
  nodup_names := by decide +kernel
  type := TransformOption.type
  default
    | .sourcefile => ""
    | .loader => Loader.jsx

end BundleHost
