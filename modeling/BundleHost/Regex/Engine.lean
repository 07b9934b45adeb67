import BundleHost.Regex.Parser
import BundleHost.RegexEngine

/-!
# The engine of the program that is run

`Regex` has what common patterns are made of. It serves where an engine has to be at hand: in the
program that is run, and in examples.
-/

namespace BundleHost

/-- Compiles a pattern; what is wrong with one is not told in detail. -/
def Regex.compile (pattern : String) : Except String Regex :=
  match parse? pattern with
  | some regex => .ok regex
  | none => .error "invalid pattern"

instance : RegexEngine where
  Program := Regex
  compile := Regex.compile
  occursIn := Regex.occursIn
  isDecimalDigit := Unicode.isDecimalDigit
  isWordChar := Unicode.isWordChar

end BundleHost
