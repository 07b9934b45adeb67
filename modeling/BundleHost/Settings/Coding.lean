import BundleHost.Settings.Basic

/-!
# Settings as documents

Written settings have one entry for every option, null where it is unset. Reading takes options in
the order of the document, those of the kind of run before the shared ones; null leaves a scalar
option unset, other keys do not count, and absent keys leave the defaults.
-/

namespace BundleHost

/-- A single character counts as a text. -/
def Document.charAsText : Document → Document
  | .char c => .text c.toString
  | document => document

namespace Slots

variable {ι : Type} [DecidableEq ι] [OptionFamily ι]

/-- Reads an option by name, null making it unset; absent for another name. -/
def readNamed? (slots : Slots ι) (name : String) (document : Document) :
    Option (Except DecodeError (Slots ι)) :=
  (OptionFamily.ofName? name).map fun o : ι => do
    .ok (slots.update o (← Decoder.optional (OptionFamily.type o).decode document))

/-- Makes an option of a name hold what a document says; absent for another name. -/
def assignNamed? (slots : Slots ι) (name : String) (document : Document) :
    Option (Except DecodeError (Slots ι)) :=
  (OptionFamily.ofName? name).map fun o : ι => do
    .ok (slots.assign o (← (OptionFamily.type o).decode document))

/-- The entry of one option. -/
def encodeOption (slots : Slots ι) (o : ι) : String × Document :=
  (OptionFamily.name o,
    match slots.explicit? o with
    | some value => (OptionFamily.type o).encode value
    | none => .null)

def encode (slots : Slots ι) : List (String × Document) :=
  (OptionFamily.all : List ι).map slots.encodeOption

end Slots

namespace EngineVersion

def decode : Decoder EngineVersion := fun document => do
  let found ← Decoder.record
    [Decoder.field "name" .required (Enumeration.decode : Decoder EngineName),
     Decoder.field "version" .required Decoder.text] document
  .ok ⟨← Decoder.get found "name" Enumeration.decode Enumeration.default,
    ← Decoder.get found "version" Decoder.text ""⟩

def encode (engine : EngineVersion) : Document :=
  .table [("name", Enumeration.encode engine.name), ("version", .text engine.version)]

end EngineVersion

/-- The entries of a table, which settings have to be. -/
def Decoder.tableEntries : Decoder (List (String × Document))
  | .table entries => .ok entries
  | _ => .error .invalidType

namespace SharedSettings

/-- Makes the scalar option of a name hold what a document says; absent for another name. -/
def assignNamed? (settings : SharedSettings) (name : String) (document : Document) :
    Option (Except DecodeError SharedSettings) :=
  (settings.scalars.assignNamed? name document).map fun scalars => do
    .ok { settings with scalars := ← scalars }

/-- Reads one entry. -/
def readEntry (settings : SharedSettings) (key : String) (document : Document) :
    Except DecodeError SharedSettings :=
  match settings.scalars.readNamed? key document with
  | some scalars => do .ok { settings with scalars := ← scalars }
  | none =>
    match key with
    | "pure" => do .ok { settings with pureNames := ← Decoder.list Decoder.text document }
    | "drop_labels" => do
      .ok { settings with dropLabels := ← Decoder.list Decoder.text document }
    | "engines" => do .ok { settings with engines := ← Decoder.list EngineVersion.decode document }
    | "define" => do .ok { settings with define := ← Decoder.map Decoder.text document }
    | "log_override" => do
      .ok { settings with logOverride := ← Decoder.map Enumeration.decode document }
    | "supported" => do .ok { settings with supported := ← Decoder.map Decoder.bool document }
    | _ => .ok settings

def readEntries (settings : SharedSettings) :
    List (String × Document) → Except DecodeError SharedSettings
  | [] => .ok settings
  | (key, document) :: rest => do (← settings.readEntry key document).readEntries rest

def decode : Decoder SharedSettings := fun document => do
  readEntries {} (← Decoder.tableEntries document)

def encodeEntries (settings : SharedSettings) : List (String × Document) :=
  settings.scalars.encode ++
    [("pure", .texts settings.pureNames), ("drop_labels", .texts settings.dropLabels),
     ("engines", .list (settings.engines.map EngineVersion.encode)),
     ("define", .table (settings.define.entries.map fun (key, text) => (key, .text text))),
     ("log_override",
       .table (settings.logOverride.entries.map fun (key, l) => (key, Enumeration.encode l))),
     ("supported", .table (settings.supported.entries.map fun (key, b) => (key, .bool b)))]

def encode (settings : SharedSettings) : Document := .table settings.encodeEntries

end SharedSettings

namespace ScopedSettings

variable {ι : Type} [DecidableEq ι] [OptionFamily ι]

/-- Makes the scalar option of a name hold what a document says; absent for another name. -/
def assignNamed? (settings : ScopedSettings ι) (name : String) (document : Document) :
    Option (Except DecodeError (ScopedSettings ι)) :=
  match settings.own.assignNamed? name document with
  | some own => some do .ok { settings with own := ← own }
  | none =>
    (settings.shared.assignNamed? name document).map fun shared => do
      .ok { settings with shared := ← shared }

/-- Reads an entry of the own family. -/
def readOwnEntry (settings : ScopedSettings ι) (key : String) (document : Document) :
    Except DecodeError (ScopedSettings ι) :=
  match settings.own.readNamed? key document.charAsText with
  | some own => do .ok { settings with own := ← own }
  | none => .ok settings

def readOwnEntries (settings : ScopedSettings ι) :
    List (String × Document) → Except DecodeError (ScopedSettings ι)
  | [] => .ok settings
  | (key, document) :: rest => do (← settings.readOwnEntry key document).readOwnEntries rest

def decode : Decoder (ScopedSettings ι) := fun document => do
  let entries ← Decoder.tableEntries document
  let settings ← readOwnEntries {} entries
  .ok { settings with shared := ← settings.shared.readEntries entries }

def encodeEntries (settings : ScopedSettings ι) : List (String × Document) :=
  settings.shared.encodeEntries ++ settings.own.encode

def encode (settings : ScopedSettings ι) : Document := .table settings.encodeEntries

end ScopedSettings

namespace BuildSettings

/-- Makes the scalar option of a name hold what a document says; absent for another name. -/
def assignNamed? (settings : BuildSettings) (name : String) (document : Document) :
    Option (Except DecodeError BuildSettings) :=
  (settings.toScopedSettings.assignNamed? name document).map fun result => do
    .ok { settings with toScopedSettings := ← result }

/-- A list of texts or single characters. -/
def decodeTexts : Decoder (List String) :=
  Decoder.list fun document => Decoder.text document.charAsText

/-- Reads an entry of the options of builds. -/
def readOwnEntry (settings : BuildSettings) (key : String) (document : Document) :
    Except DecodeError BuildSettings :=
  match key with
  | "entry_points" => do .ok { settings with entryPoints := ← decodeTexts document }
  | "external" => do .ok { settings with external := ← decodeTexts document }
  | "inject" => do .ok { settings with inject := ← decodeTexts document }
  | _ => do
    .ok { settings with
      toScopedSettings := ← settings.toScopedSettings.readOwnEntry key document }

def readOwnEntries (settings : BuildSettings) :
    List (String × Document) → Except DecodeError BuildSettings
  | [] => .ok settings
  | (key, document) :: rest => do (← settings.readOwnEntry key document).readOwnEntries rest

def decode : Decoder BuildSettings := fun document => do
  let entries ← Decoder.tableEntries document
  let settings ← readOwnEntries {} entries
  .ok { settings with shared := ← settings.shared.readEntries entries }

def encode (settings : BuildSettings) : Document :=
  .table (settings.toScopedSettings.encodeEntries ++
    [("entry_points", .texts settings.entryPoints), ("external", .texts settings.external),
     ("inject", .texts settings.inject)])

end BuildSettings

end BundleHost
