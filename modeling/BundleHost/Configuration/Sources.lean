import BundleHost.Configuration.Basic
import BundleHost.Configuration.Layers
import BundleHost.Disk
import BundleHost.Json.Reader
import BundleHost.Toml.Reader

/-!
# Where configurations come from

A configuration is read from the written defaults with a file in one of two formats laid over them,
and the environment laid over both. The keys of every table are taken in sorted order.
-/

namespace BundleHost.Configuration

/-- The formats of configuration files. -/
inductive FileFormat where
  | toml | json
  deriving DecidableEq, Repr

def FileFormat.ofExtension? : String → Option FileFormat
  | "toml" => some .toml
  | "json" => some .json
  | _ => none

/-- The class of failure of a JSON text that is no table: values of other types are told from
texts that are no JSON as soon as their kind is clear. -/
def refuseJson (text : List Char) : DecodeError :=
  match Json.skipBlanks text with
  | '[' :: _ => .invalidType
  | start =>
    match Json.readScalar start with
    | some _ => .invalidType
    | none => .malformed

/-- Reads a JSON text that has to be a table. -/
def readJson (text : String) : Except DecodeError Document :=
  match Json.skipBlanks text.toList with
  | '\x7b' :: _ =>
    match Json.parse? text with
    | some document => .ok document.unique
    | none => .error .malformed
  | _ => .error (refuseJson text.toList)

def readToml (text : String) : Except DecodeError Document :=
  match Toml.parse? text with
  | some document => .ok document
  | none => .error .malformed

/-- The document of a configuration file; a directory counts as an empty one. -/
def FileFormat.read (format : FileFormat) (disk : Disk) (path : String) :
    Except DecodeError Document :=
  if disk.isFile path then
    match disk.readText path with
    | .error _ => .error .malformed
    | .ok text =>
      match format with
      | .toml => readToml text
      | .json => readJson text
  else .ok (.table [])

/-- The document of the file at a path, by the format that its extension names. -/
def readFile (disk : Disk) (path : String) : Except ConfigError (Except DecodeError Document) :=
  if disk.pathExists path then
    let extension := (Path.extension? path).getD ""
    match FileFormat.ofExtension? extension with
    | some format => .ok (format.read disk path)
    | none => .error (.unsupportedFormat (if extension.isEmpty then path else extension))
  else .error (.notFound path)

/-- The lowest layer: unset options as nulls, empty lists and empty maps. -/
def defaults : Document := encode {}

/-- Lays the file at a path, if there is one, over the defaults, and the environment over both. -/
def load (disk : Disk) (vars : List (String × String)) (path : Option String) :
    Except ConfigError Configuration := do
  let file ←
    match path with
    | some path => readFile disk path
    | none => .ok (.ok (.table []))
  match file with
  | .error error => .error (.invalidValue "configuration" (some error.message))
  | .ok document =>
    read "configuration" ((defaults.overlay document).overlay (Environment.document vars)).sorted

/-- The names under which a configuration file is looked for, in order. -/
def fileNames : List String := ["keel.toml", "keel.json"]

/-- The first configuration file in a directory. -/
def find? (disk : Disk) (root : String) : Option String :=
  (fileNames.map (Path.join root)).find? disk.isFile

/-- Loads the configuration file that is found in a directory. -/
def loadFrom (disk : Disk) (vars : List (String × String)) (root : String) :
    Except ConfigError Configuration :=
  match find? disk root with
  | some path => load disk vars (some path)
  | none => .error (.notFound root)

end BundleHost.Configuration
