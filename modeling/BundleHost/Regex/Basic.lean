import BundleHost.Unicode.Blank
import BundleHost.Unicode.Category
import BundleHost.Unicode.Script
import BundleHost.Unicode.Folding

/-!
# Regular expressions

Expressions over character classes with zero-width assertions. An assertion looks at the
characters on both sides of a position, so every operation on an expression is given both.
-/

namespace BundleHost

/-- A named set of characters. -/
inductive CharProperty where
  | category (value : Unicode.Category)
  | script (longName : String)
  | alphabetic
  | lowercase
  | uppercase
  | whiteSpace
  | decimalDigit
  | wordChar
  deriving DecidableEq, Repr

def CharProperty.holds : CharProperty → Char → Bool
  | .category value, c => Unicode.Category.of c = value
  | .script longName, c => Unicode.Script.of c = longName
  | .alphabetic, c => Unicode.isAlphabetic c
  | .lowercase, c => Unicode.isLowercase c
  | .uppercase, c => Unicode.isUppercase c
  | .whiteSpace, c => Unicode.isWhiteSpace c
  | .decimalDigit, c => Unicode.isDecimalDigit c
  | .wordChar, c => Unicode.isWordChar c

/-- The characters that one step of a match accepts. -/
inductive CharClass where
  | empty
  | interval (first last : Nat)
  | property (name : CharProperty)
  | union (a b : CharClass)
  | inter (a b : CharClass)
  | diff (a b : CharClass)
  | symmDiff (a b : CharClass)
  | compl (a : CharClass)
  /-- The characters with the same simple case folding as a member. -/
  | caseless (a : CharClass)
  /-- The characters that differ from a member at most in the case of an ASCII letter. -/
  | asciiCaseless (a : CharClass)
  deriving DecidableEq, Repr

namespace CharClass

def contains : CharClass → Char → Bool
  | .empty, _ => false
  | .interval first last, c => first ≤ c.toNat && c.toNat ≤ last
  | .property name, c => name.holds c
  | .union a b, c => a.contains c || b.contains c
  | .inter a b, c => a.contains c && b.contains c
  | .diff a b, c => a.contains c && !b.contains c
  | .symmDiff a b, c => a.contains c != b.contains c
  | .compl a, c => !a.contains c
  | .caseless a, c => (Unicode.orbit c).any a.contains
  | .asciiCaseless a, c => a.contains c.toLower || a.contains c.toUpper || a.contains c

def single (c : Char) : CharClass := .interval c.toNat c.toNat

def any : CharClass := .interval 0 0x10FFFF

def ofIntervals (intervals : Unicode.Intervals) : CharClass :=
  intervals.foldr (fun (first, last) rest => .union (.interval first last) rest) .empty

/-- Whether a class of bytes, read as the characters up to 255, holds ASCII characters only. -/
def isAscii (a : CharClass) : Bool :=
  !(List.range 128).any fun i => a.contains (Char.ofNat (128 + i))

end CharClass

/-- What a zero-width assertion asks of a position. -/
inductive Assertion where
  | textStart
  | textEnd
  /-- At the start of a line; with `crlf` a carriage return ends a line as well. -/
  | lineStart (crlf : Bool)
  | lineEnd (crlf : Bool)
  /-- Between a word character and another one, where `unicode` tells which notion of word. -/
  | wordBoundary (unicode : Bool)
  | notWordBoundary (unicode : Bool)
  | wordStart (unicode : Bool)
  | wordEnd (unicode : Bool)
  /-- No word character in front. -/
  | wordStartHalf (unicode : Bool)
  /-- No word character behind. -/
  | wordEndHalf (unicode : Bool)
  deriving DecidableEq, Repr

namespace Assertion

/-- Letters, digits and the underscore of ASCII. -/
def isAsciiWordChar (c : Char) : Bool := c.isAlphanum || c = '_'

def isWord (unicode : Bool) (c : Option Char) : Bool :=
  c.any (if unicode then Unicode.isWordChar else isAsciiWordChar)

/-- Whether the assertion holds between the characters `prev` and `next`, absent at the ends. -/
def holds (prev next : Option Char) : Assertion → Bool
  | .textStart => prev.isNone
  | .textEnd => next.isNone
  | .lineStart crlf =>
    prev.isNone || prev = some '\n' || (crlf && prev = some '\r' && next ≠ some '\n')
  | .lineEnd crlf =>
    next.isNone ||
      if crlf then next = some '\r' || (next = some '\n' && prev ≠ some '\r')
      else next = some '\n'
  | .wordBoundary unicode => isWord unicode prev != isWord unicode next
  | .notWordBoundary unicode => isWord unicode prev == isWord unicode next
  | .wordStart unicode => !isWord unicode prev && isWord unicode next
  | .wordEnd unicode => isWord unicode prev && !isWord unicode next
  | .wordStartHalf unicode => !isWord unicode prev
  | .wordEndHalf unicode => !isWord unicode next

end Assertion

inductive Regex where
  | empty
  | set (characters : CharClass)
  | look (assertion : Assertion)
  | seq (a b : Regex)
  | alt (a b : Regex)
  | star (a : Regex)
  deriving DecidableEq, Repr

namespace Regex

/-- Concatenation that drops empty expressions. -/
def append : Regex → Regex → Regex
  | .empty, b => b
  | a, .empty => a
  | a, b => .seq a b

/-- `n` copies of `a` in front of `rest`. -/
def replicate (n : Nat) (a rest : Regex) : Regex :=
  match n with
  | 0 => rest
  | n + 1 => append a (replicate n a rest)

/-- Up to `n` copies of `a`. -/
def upTo (n : Nat) (a : Regex) : Regex :=
  match n with
  | 0 => .empty
  | n + 1 => .alt (append a (upTo n a)) .empty

/-- At least `least` copies of `a`, and at most `most` where that is given. -/
def repeated (a : Regex) (least : Nat) : Option Nat → Regex
  | some most => replicate least a (upTo (most - least) a)
  | none => replicate least a (.star a)

/-- Whether the expression matches the empty text between `prev` and `next`. -/
def nullable (prev next : Option Char) : Regex → Bool
  | .empty => true
  | .set _ => false
  | .look assertion => assertion.holds prev next
  | .seq a b => a.nullable prev next && b.nullable prev next
  | .alt a b => a.nullable prev next || b.nullable prev next
  | .star _ => true

/-- What may be left to match once the expression has consumed `c`, which follows `prev`. -/
def step (prev : Option Char) (c : Char) : Regex → List Regex
  | .empty => []
  | .set characters => if characters.contains c then [.empty] else []
  | .look _ => []
  | .seq a b =>
    let first := (a.step prev c).map (append · b)
    if a.nullable prev (some c) then first ++ b.step prev c else first
  | .alt a b => a.step prev c ++ b.step prev c
  | .star a => (a.step prev c).map (append · (.star a))

/-- Whether `root` matches from here on, or one of the matches `begun` earlier can be completed. -/
def search (root : Regex) (begun : List Regex) (prev : Option Char) : List Char → Bool
  | [] => (root :: begun).any (nullable prev none)
  | c :: rest =>
    let states := root :: begun
    states.any (nullable prev (some c)) ||
      search root ((states.flatMap (step prev c)).eraseDups) (some c) rest

/-- Whether the expression matches somewhere in the text. -/
def occursIn (regex : Regex) (text : String) : Bool := search regex [] none text.toList

@[simp] theorem occursIn_empty (text : String) : occursIn empty text = true := by
  unfold occursIn
  cases text.toList <;> rfl

end Regex

end BundleHost
