import BundleHost.Enumeration

/-!
# The vocabularies of the options

The sixteen enumerations that options take their values from, and `Vocabulary`, which names them.
-/

namespace BundleHost

/-- Where the output runs. -/
inductive Platform where
  | browser | node | neutral
  deriving DecidableEq, Repr

instance : Enumeration Platform where
  kind := "platform"
  members := [.browser, .node, .neutral]
  name
    | .browser => "browser"
    | .node => "node"
    | .neutral => "neutral"
  code
    | .browser => 0
    | .node => 1
    | .neutral => 2
  aliases := []
  default := .browser

/-- Module format of the output; by default it follows the platform. -/
inductive Format where
  | platformDefault | iife | cjs | esm
  deriving DecidableEq, Repr

instance : Enumeration Format where
  kind := "format"
  members := [.platformDefault, .iife, .cjs, .esm]
  name
    | .platformDefault => "default"
    | .iife => "iife"
    | .cjs => "cjs"
    | .esm => "esm"
  code
    | .platformDefault => 0
    | .iife => 1
    | .cjs => 2
    | .esm => 3
  aliases := [("", .platformDefault), ("commonjs", .cjs)]
  default := .platformDefault

/-- Language level that the output must run on. -/
inductive Target where
  | esNext | es5 | es2015 | es2016 | es2017 | es2018 | es2019 | es2020 | es2021 | es2022 | es2023
  | es2024
  deriving DecidableEq, Repr

instance : Enumeration Target where
  kind := "target"
  members := [.esNext, .es5, .es2015, .es2016, .es2017, .es2018, .es2019, .es2020, .es2021,
    .es2022, .es2023, .es2024]
  name
    | .esNext => "esnext"
    | .es5 => "es5"
    | .es2015 => "es2015"
    | .es2016 => "es2016"
    | .es2017 => "es2017"
    | .es2018 => "es2018"
    | .es2019 => "es2019"
    | .es2020 => "es2020"
    | .es2021 => "es2021"
    | .es2022 => "es2022"
    | .es2023 => "es2023"
    | .es2024 => "es2024"
  code
    | .esNext => 1
    | .es5 => 2
    | .es2015 => 3
    | .es2016 => 4
    | .es2017 => 5
    | .es2018 => 6
    | .es2019 => 7
    | .es2020 => 8
    | .es2021 => 9
    | .es2022 => 10
    | .es2023 => 11
    | .es2024 => 12
  aliases := [("es6", .es2015)]
  default := .esNext

/-- How source maps are emitted. -/
inductive SourceMap where
  | none | inline | linked | external | both
  deriving DecidableEq, Repr

instance : Enumeration SourceMap where
  kind := "source map mode"
  members := [.none, .inline, .linked, .external, .both]
  name
    | .none => "none"
    | .inline => "inline"
    | .linked => "linked"
    | .external => "external"
    | .both => "both"
  code
    | .none => 0
    | .inline => 1
    | .linked => 2
    | .external => 3
    | .both => 4
  aliases := [("inline-and-external", .both)]
  default := .none

inductive SourcesContent where
  | include | exclude
  deriving DecidableEq, Repr

instance : Enumeration SourcesContent where
  kind := "sources content mode"
  members := [.include, .exclude]
  name
    | .include => "include"
    | .exclude => "exclude"
  code
    | .include => 0
    | .exclude => 1
  aliases := []
  default := .include

/-- How much the engine logs. -/
inductive LogLevel where
  | verbose | debug | info | warning | error | silent
  deriving DecidableEq, Repr

instance : Enumeration LogLevel where
  kind := "log level"
  members := [.verbose, .debug, .info, .warning, .error, .silent]
  name
    | .verbose => "verbose"
    | .debug => "debug"
    | .info => "info"
    | .warning => "warning"
    | .error => "error"
    | .silent => "silent"
  code
    | .verbose => 1
    | .debug => 2
    | .info => 3
    | .warning => 4
    | .error => 5
    | .silent => 6
  aliases := [("warn", .warning)]
  default := .info

inductive Color where
  | auto | never | always
  deriving DecidableEq, Repr

instance : Enumeration Color where
  kind := "color mode"
  members := [.auto, .never, .always]
  name
    | .auto => "auto"
    | .never => "never"
    | .always => "always"
  code
    | .auto => 0
    | .never => 1
    | .always => 2
  aliases := []
  default := .auto

inductive Charset where
  | ascii | utf8
  deriving DecidableEq, Repr

instance : Enumeration Charset where
  kind := "charset"
  members := [.ascii, .utf8]
  name
    | .ascii => "ascii"
    | .utf8 => "utf8"
  code
    | .ascii => 1
    | .utf8 => 2
  aliases := [("utf-8", .utf8)]
  default := .ascii

/-- Where legal comments end up. -/
inductive LegalComments where
  | platformDefault | none | inline | eof | linked | external
  deriving DecidableEq, Repr

instance : Enumeration LegalComments where
  kind := "legal comments mode"
  members := [.platformDefault, .none, .inline, .eof, .linked, .external]
  name
    | .platformDefault => "default"
    | .none => "none"
    | .inline => "inline"
    | .eof => "eof"
    | .linked => "linked"
    | .external => "external"
  code
    | .platformDefault => 0
    | .none => 1
    | .inline => 2
    | .eof => 3
    | .linked => 4
    | .external => 5
  aliases := [("", .platformDefault), ("end-of-file", .eof)]
  default := .platformDefault

/-- Statements that the engine strips. -/
inductive DropMode where
  | none | console | debugger
  deriving DecidableEq, Repr

instance : Enumeration DropMode where
  kind := "drop mode"
  members := [.none, .console, .debugger]
  name
    | .none => "none"
    | .console => "console"
    | .debugger => "debugger"
  code
    | .none => 0
    | .console => 1
    | .debugger => 2
  aliases := [("", .none)]
  default := .none

/-- Whether unused code is dropped; by default it is when bundling. -/
inductive TreeShaking where
  | whenBundling | disabled | enabled
  deriving DecidableEq, Repr

instance : Enumeration TreeShaking where
  kind := "tree shaking mode"
  members := [.whenBundling, .disabled, .enabled]
  name
    | .whenBundling => "default"
    | .disabled => "false"
    | .enabled => "true"
  code
    | .whenBundling => 0
    | .disabled => 1
    | .enabled => 2
  aliases := [("", .whenBundling)]
  default := .whenBundling

/-- Whether quoted property names are mangled too. -/
inductive MangleQuoted where
  | disabled | enabled
  deriving DecidableEq, Repr

instance : Enumeration MangleQuoted where
  kind := "mangle quoted mode"
  members := [.disabled, .enabled]
  name
    | .disabled => "false"
    | .enabled => "true"
  code
    | .disabled => 0
    | .enabled => 1
  aliases := []
  default := .disabled

/-- How imports of packages are treated when bundling. -/
inductive Packages where
  | engineDefault | bundle | external
  deriving DecidableEq, Repr

instance : Enumeration Packages where
  kind := "packages mode"
  members := [.engineDefault, .bundle, .external]
  name
    | .engineDefault => "default"
    | .bundle => "bundle"
    | .external => "external"
  code
    | .engineDefault => 0
    | .bundle => 1
    | .external => 2
  aliases := [("", .engineDefault)]
  default := .engineDefault

/-- How the engine interprets a module's contents. -/
inductive Loader where
  | base64 | binary | copy | css | dataUrl | empty | file | globalCss | js | json | jsx
  | localCss | text | ts | tsx
  deriving DecidableEq, Repr

instance : Enumeration Loader where
  kind := "loader"
  members := [.base64, .binary, .copy, .css, .dataUrl, .empty, .file, .globalCss, .js, .json,
    .jsx, .localCss, .text, .ts, .tsx]
  name
    | .base64 => "base64"
    | .binary => "binary"
    | .copy => "copy"
    | .css => "css"
    | .dataUrl => "dataurl"
    | .empty => "empty"
    | .file => "file"
    | .globalCss => "global-css"
    | .js => "js"
    | .json => "json"
    | .jsx => "jsx"
    | .localCss => "local-css"
    | .text => "text"
    | .ts => "ts"
    | .tsx => "tsx"
  code
    | .base64 => 1
    | .binary => 2
    | .copy => 3
    | .css => 4
    | .dataUrl => 5
    | .empty => 7
    | .file => 8
    | .globalCss => 9
    | .js => 10
    | .json => 11
    | .jsx => 12
    | .localCss => 13
    | .text => 14
    | .ts => 15
    | .tsx => 16
  aliases := [("globalcss", .globalCss), ("localcss", .localCss)]
  default := .js

inductive JsxMode where
  | transform | preserve | automatic
  deriving DecidableEq, Repr

instance : Enumeration JsxMode where
  kind := "jsx mode"
  members := [.transform, .preserve, .automatic]
  name
    | .transform => "transform"
    | .preserve => "preserve"
    | .automatic => "automatic"
  code
    | .transform => 0
    | .preserve => 1
    | .automatic => 2
  aliases := []
  default := .transform

/-- Runtimes that can be pinned to a version. -/
inductive EngineName where
  | chrome | deno | edge | firefox | hermes | ie | ios | node | opera | rhino | safari
  deriving DecidableEq, Repr

instance : Enumeration EngineName where
  kind := "engine name"
  members := [.chrome, .deno, .edge, .firefox, .hermes, .ie, .ios, .node, .opera, .rhino, .safari]
  name
    | .chrome => "chrome"
    | .deno => "deno"
    | .edge => "edge"
    | .firefox => "firefox"
    | .hermes => "hermes"
    | .ie => "ie"
    | .ios => "ios"
    | .node => "node"
    | .opera => "opera"
    | .rhino => "rhino"
    | .safari => "safari"
  code
    | .chrome => 0
    | .deno => 1
    | .edge => 2
    | .firefox => 3
    | .hermes => 4
    | .ie => 5
    | .ios => 6
    | .node => 7
    | .opera => 8
    | .rhino => 9
    | .safari => 10
  aliases := []
  default := .chrome

/-- The enumerations of option values. -/
inductive Vocabulary where
  | platform | format | target | sourcemap | sourcesContent | logLevel | color | charset
  | legalComments | drop | treeShaking | mangleQuoted | packages | loader | jsx | engine
  deriving DecidableEq, Repr

namespace Vocabulary

def all : List Vocabulary :=
  [.platform, .format, .target, .sourcemap, .sourcesContent, .logLevel, .color, .charset,
   .legalComments, .drop, .treeShaking, .mangleQuoted, .packages, .loader, .jsx, .engine]

def name : Vocabulary → String
  | .platform => "platform"
  | .format => "format"
  | .target => "target"
  | .sourcemap => "sourcemap"
  | .sourcesContent => "sources_content"
  | .logLevel => "log_level"
  | .color => "color"
  | .charset => "charset"
  | .legalComments => "legal_comments"
  | .drop => "drop"
  | .treeShaking => "tree_shaking"
  | .mangleQuoted => "mangle_quoted"
  | .packages => "packages"
  | .loader => "loader"
  | .jsx => "jsx"
  | .engine => "engine"

def ofName? (name : String) : Option Vocabulary := all.find? (·.name = name)

/-- The members of a vocabulary. -/
abbrev Member : Vocabulary → Type
  | .platform => Platform
  | .format => Format
  | .target => Target
  | .sourcemap => SourceMap
  | .sourcesContent => SourcesContent
  | .logLevel => LogLevel
  | .color => Color
  | .charset => Charset
  | .legalComments => LegalComments
  | .drop => DropMode
  | .treeShaking => TreeShaking
  | .mangleQuoted => MangleQuoted
  | .packages => Packages
  | .loader => Loader
  | .jsx => JsxMode
  | .engine => EngineName

instance : (v : Vocabulary) → Enumeration v.Member
  | .platform => inferInstanceAs (Enumeration Platform)
  | .format => inferInstanceAs (Enumeration Format)
  | .target => inferInstanceAs (Enumeration Target)
  | .sourcemap => inferInstanceAs (Enumeration SourceMap)
  | .sourcesContent => inferInstanceAs (Enumeration SourcesContent)
  | .logLevel => inferInstanceAs (Enumeration LogLevel)
  | .color => inferInstanceAs (Enumeration Color)
  | .charset => inferInstanceAs (Enumeration Charset)
  | .legalComments => inferInstanceAs (Enumeration LegalComments)
  | .drop => inferInstanceAs (Enumeration DropMode)
  | .treeShaking => inferInstanceAs (Enumeration TreeShaking)
  | .mangleQuoted => inferInstanceAs (Enumeration MangleQuoted)
  | .packages => inferInstanceAs (Enumeration Packages)
  | .loader => inferInstanceAs (Enumeration Loader)
  | .jsx => inferInstanceAs (Enumeration JsxMode)
  | .engine => inferInstanceAs (Enumeration EngineName)

instance : (v : Vocabulary) → DecidableEq v.Member
  | .platform => inferInstanceAs (DecidableEq Platform)
  | .format => inferInstanceAs (DecidableEq Format)
  | .target => inferInstanceAs (DecidableEq Target)
  | .sourcemap => inferInstanceAs (DecidableEq SourceMap)
  | .sourcesContent => inferInstanceAs (DecidableEq SourcesContent)
  | .logLevel => inferInstanceAs (DecidableEq LogLevel)
  | .color => inferInstanceAs (DecidableEq Color)
  | .charset => inferInstanceAs (DecidableEq Charset)
  | .legalComments => inferInstanceAs (DecidableEq LegalComments)
  | .drop => inferInstanceAs (DecidableEq DropMode)
  | .treeShaking => inferInstanceAs (DecidableEq TreeShaking)
  | .mangleQuoted => inferInstanceAs (DecidableEq MangleQuoted)
  | .packages => inferInstanceAs (DecidableEq Packages)
  | .loader => inferInstanceAs (DecidableEq Loader)
  | .jsx => inferInstanceAs (DecidableEq JsxMode)
  | .engine => inferInstanceAs (DecidableEq EngineName)

end Vocabulary

end BundleHost
