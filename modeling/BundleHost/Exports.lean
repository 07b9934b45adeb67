import BundleHost.RegexEngine
import BundleHost.Text.Basic

/-!
# Exported names

The names that a module exports, as far as its text shows them without being parsed: those of
declarations, then those in export lists. A name that follows itself is left out.
-/

namespace BundleHost.Exports

open Unicode (isWhiteSpace)

variable [RegexEngine]

/-- The text behind white space, of which there is some. -/
def skipSpace? (text : List Char) : Option (List Char) :=
  match text with
  | c :: rest => if isWhiteSpace c then some (rest.dropWhile isWhiteSpace) else none
  | [] => none

/-- What declares a name. -/
def declarators : List String := ["const", "let", "var", "function*", "function", "class"]

/-- The text behind the first of some words that it begins with. -/
def skipWord? (words : List String) (text : List Char) : Option (List Char) :=
  words.findSome? fun word => Text.strip? word text

/-- The text behind `async` and white space, if it begins so. -/
def skipAsync (text : List Char) : List Char :=
  ((Text.strip? "async" text).bind skipSpace?).getD text

def isNameStart (c : Char) : Bool := c.isAlpha || c = '_' || c = '$'

def isNameChar (c : Char) : Bool := RegexEngine.isWordChar c || c = '$'

/-- A name and the text behind it. -/
def name? (text : List Char) : Option (String × List Char) :=
  match text with
  | c :: _ =>
    if isNameStart c then
      let (name, rest) := text.span isNameChar
      some (String.ofList name, rest)
    else none
  | [] => none

/-- The name of an exported declaration that the text begins with. -/
def declaration? (text : List Char) : Option (String × List Char) := do
  let rest ← skipSpace? (← Text.strip? "export" text)
  let rest ← skipSpace? (← skipWord? declarators (skipAsync rest))
  name? rest

/-- The exported name of an item in an export list. -/
def exportedAs (item : List Char) : String :=
  String.ofList (Text.trimChars (Text.afterLast " as ".toList item))

/-- The names in an export list that the text begins with. -/
def exportList? (text : List Char) : Option (List String × List Char) := do
  match (← Text.strip? "export" text).dropWhile isWhiteSpace with
  | '\x7b' :: rest =>
    match rest.span (· ≠ '\x7d') with
    | (content, _ :: rest) =>
      let names := (Text.splitOn ',' content).map exportedAs
      some (names.filter fun name => !name.isEmpty && name ≠ "default", rest)
    | (_, []) => none
  | _ => none

/-- The list without those items that equal the one before them. -/
def dropRepeats : List String → List String
  | a :: b :: rest => if a = b then dropRepeats (b :: rest) else a :: dropRepeats (b :: rest)
  | names => names

/-- The exported names in the text of a module. -/
def names (text : String) : List String :=
  dropRepeats
    (Text.scan declaration? 0 text.toList ++ (Text.scan exportList? 0 text.toList).flatten)

end BundleHost.Exports
