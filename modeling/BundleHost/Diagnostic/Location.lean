import BundleHost.RegexEngine
import BundleHost.Text.Basic

/-!
# Locations in messages

A message may name a source file, with a line and a column behind colons. Here such a location is
found in the text of a message, and the advice that a message ends with.
-/

namespace BundleHost

/-- A file, and the place in it as far as a message tells. -/
structure Location where
  file : Option String
  line : Option Nat
  column : Option Nat
  deriving DecidableEq, Repr

namespace Location

variable [RegexEngine]

def nowhere : Location := ⟨none, none, none⟩

/-- Endings of the names of source files. -/
def extensions : List String :=
  ["js", "jsx", "ts", "tsx", "cjs", "cjsx", "cts", "ctsx", "mjs", "mjsx", "mts", "mtsx", "json",
   "css"]

def isExtension (ending : List Char) : Bool := extensions.contains (String.ofList ending)

/-- Characters that no file name in a message has. -/
def isBreak (c : Char) : Bool :=
  Unicode.isWhiteSpace c || c = '"' || c = '\'' || c = '(' || c = ')' || c = ','

/-- The words of a text, between its breaks. -/
def words (text : List Char) : List (List Char) :=
  (Text.splitWhere isBreak text).filter (!·.isEmpty)

/-- The last dot behind which `test` succeeds, if something stands before the dot: what stands
before it, which is kept in reverse order up to the dot, and what the test found. -/
def lastDot? {α : Type} (test : List Char → Option α) (before : List Char) :
    List Char → Option (List Char × α)
  | [] => none
  | c :: rest =>
    (lastDot? test (c :: before) rest).or
      (if c = '.' && !before.isEmpty then (test rest).map fun found => (before.reverse, found)
      else none)

/-- The number that digits write, if they are ASCII digits and it has 32 bits. -/
def number? (digits : List Char) : Option Nat :=
  if digits.all Char.isDigit then
    let n := digits.foldl (fun n c => 10 * n + (c.toNat - '0'.toNat)) 0
    if n < UInt32.size then some n else none
  else none

/-- The decimal digits behind a colon, if there are any, and what follows them. -/
def digitsAfterColon? : List Char → Option (List Char × List Char)
  | ':' :: rest =>
    match rest.span RegexEngine.isDecimalDigit with
    | ([], _) => none
    | found => some found
  | _ => none

/-- An ending with a line behind it, and a column if there is one. -/
def position? (rest : List Char) : Option (List Char × Option Nat × Option Nat) :=
  let (ending, rest) := rest.span (· ≠ ':')
  if isExtension ending then
    (digitsAfterColon? rest).map fun (line, rest) =>
      (ending, number? line, (digitsAfterColon? rest).bind fun (column, _) => number? column)
  else none

/-- An ending behind which the name ends. -/
def ending? (rest : List Char) : Option (List Char) :=
  let ending := rest.takeWhile RegexEngine.isWordChar
  if isExtension ending then some ending else none

def fileName (base ending : List Char) : String := String.ofList (base ++ '.' :: ending)

/-- A location with a line in a word. -/
def ofWord? (word : List Char) : Option Location :=
  (lastDot? position? [] word).map fun (base, ending, line, column) =>
    ⟨some (fileName base ending), line, column⟩

/-- A file without a line in a word. -/
def fileOfWord? (word : List Char) : Option Location :=
  (lastDot? ending? [] word).map fun (base, ending) => ⟨some (fileName base ending), none, none⟩

/-- The first location with a line in a text, otherwise the first file in it. -/
def find (text : String) : Location :=
  let words := words text.toList
  ((words.findSome? ofWord?).or (words.findSome? fileOfWord?)).getD nowhere

end Location

/-- What introduces advice, in the order of preference. -/
def adviceMarks : List String := ["help: ", "Help: ", "hint: ", "Hint: "]

/-- The rest of the line behind the first place of a mark, if it is not blank. -/
def adviceAfter? (text mark : String) : Option String :=
  match Text.after? mark.toList text.toList with
  | none => none
  | some rest =>
    let advice := Text.trimChars (Text.firstLine rest)
    if advice.isEmpty then none else some (String.ofList advice)

/-- The advice in a message. -/
def advice? (text : String) : Option String := adviceMarks.findSome? (adviceAfter? text)

end BundleHost
