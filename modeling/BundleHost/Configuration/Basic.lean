import BundleHost.Settings.Coding

/-!
# Configurations

A configuration holds the settings of builds and those of transforms. It is read from a table with
a section for each, or from the list of the two.
-/

namespace BundleHost

structure Configuration where
  build : BuildSettings := {}
  transform : TransformSettings := {}
  deriving DecidableEq

namespace Configuration

def fields : List Decoder.Field :=
  [Decoder.field "build" .defaulted BuildSettings.decode,
   Decoder.field "transform" .defaulted (ScopedSettings.decode : Decoder TransformSettings)]

def decode : Decoder Configuration := fun document => do
  let found ← Decoder.record fields document
  .ok { build := ← Decoder.get found "build" BuildSettings.decode {}
        transform := ← Decoder.get found "transform" ScopedSettings.decode {} }

def encode (configuration : Configuration) : Document :=
  .table [("build", configuration.build.encode), ("transform", configuration.transform.encode)]

/-- Reads a document; `field` names it in the error. -/
def read (field : String) (document : Document) : Except ConfigError Configuration :=
  match decode document with
  | .ok configuration => .ok configuration
  | .error error => .error (.invalidValue field (some error.message))

/-- The configuration that a program gives as a document. -/
def ofDocument (document : Document) : Except ConfigError Configuration :=
  read "config" document

end Configuration

end BundleHost
