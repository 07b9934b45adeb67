/-!
# Engines of regular expressions

Filters, the patterns in settings and the search for places in messages rely on an engine of
regular expressions. What it does is not described here: everything that compiles patterns or
searches with them is for any `RegexEngine`.
-/

namespace BundleHost

class RegexEngine where
  /-- Compiled expressions. -/
  Program : Type
  /-- Compiles a pattern, or says what is wrong with it. -/
  compile : String → Except String Program
  /-- Whether an expression matches somewhere in a text. -/
  occursIn : Program → String → Bool
  /-- The characters of the class `\d`. -/
  isDecimalDigit : Char → Bool
  /-- The characters of the class `\w`. -/
  isWordChar : Char → Bool

end BundleHost
