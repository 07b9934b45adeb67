import BundleHost.Settings.Basic
import BundleHost.Text.Basic

/-!
# External imports

Which imports stay outside the output when no plugin handles them: those that match a pattern of
the settings, imports of packages if packages are external, and all of them without bundling.
-/

namespace BundleHost

inductive ExternalPattern where
  /-- A package, and what lies below it. -/
  | package (name : List Char)
  /-- Anything between a beginning and an end. -/
  | wildcard (before after : List Char)
  deriving DecidableEq, Repr

namespace ExternalPattern

def ofText (pattern : String) : ExternalPattern :=
  match Text.splitFirst? '*' pattern.toList with
  | some (before, after) => .wildcard before after
  | none => .package pattern.toList

def admits : ExternalPattern → List Char → Bool
  | .package name, specifier =>
    specifier = name || (name ++ ['/']).isPrefixOf specifier
  | .wildcard before after, specifier =>
    before.length + after.length ≤ specifier.length &&
      before.isPrefixOf specifier && after.isSuffixOf specifier

end ExternalPattern

structure ExternalPolicy where
  patterns : List ExternalPattern := []
  packages : Bool := false
  everything : Bool := false
  deriving DecidableEq, Repr

/-- Whether a specifier names a package: it is not empty and begins with no dot and no slash. -/
def isBareSpecifier (specifier : String) : Bool :=
  match specifier.toList.head? with
  | some c => c ≠ '.' && c ≠ '/'
  | none => false

namespace ExternalPolicy

def forBuild (settings : BuildSettings) : ExternalPolicy where
  patterns := settings.external.map ExternalPattern.ofText
  packages := settings.packages = .external
  everything := !settings.bundle

/-- The policy of transforms, which never bundle. -/
def all : ExternalPolicy := { everything := true }

/-- Whether an import stays outside. -/
def isExternal (policy : ExternalPolicy) (specifier : String) : Bool :=
  policy.everything || policy.patterns.any (·.admits specifier.toList) ||
    (policy.packages && isBareSpecifier specifier)

end ExternalPolicy

end BundleHost
