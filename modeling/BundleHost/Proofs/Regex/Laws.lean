import BundleHost.RegexEngine
import BundleHost.Unicode.Blank

/-!
# What is relied on of an engine of regular expressions

Most of what is proved here holds whatever the engine does. Where a result depends on a class of
characters or on a pattern of the library's own, it assumes what engines document about it.

## Main definitions

* `LawfulDigits` — the class `\d`, as far as places in messages depend on it.
* `LawfulPatterns` — what the empty text is as a pattern, and the patterns that the plugins in
  common use have.
-/

namespace BundleHost.RegexEngine

variable [RegexEngine]

/-- The class `\d` holds decimal digits: of ASCII those from zero to nine, and no white space. -/
class LawfulDigits : Prop where
  isDecimalDigit_ascii {c : Char} : c.toNat < 128 → isDecimalDigit c = c.isDigit
  isDecimalDigit_whiteSpace {c : Char} :
    Unicode.isWhiteSpace c = true → isDecimalDigit c = false

/-- Characters that stand for themselves inside brackets. -/
def isPlainInBrackets (c : Char) : Bool :=
  !(['\\', '[', ']', '^', '-', '&', '~'].contains c)

/-- What may match nothing is found in every text. A set in brackets that begins with a circumflex,
and is bound to the beginning of the text, is found where there is a first character and it is none
of those in the set; the sets here are not so large that an engine would refuse them. -/
class LawfulPatterns : Prop where
  compile_empty : ∃ program, compile "" = .ok program ∧ ∀ text, occursIn program text = true
  compile_anything : ∃ program, compile ".*" = .ok program ∧ ∀ text, occursIn program text = true
  compile_negatedSet {members : List Char} : members ≠ [] → members.length ≤ 100 →
    (∀ c ∈ members, isPlainInBrackets c = true) →
      ∃ program, compile ("^[^" ++ String.ofList members ++ "]") = .ok program ∧
        ∀ text, occursIn program text = text.toList.head?.any fun c => !members.contains c

end BundleHost.RegexEngine
