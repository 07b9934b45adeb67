import BundleHost.Unicode.Blank

/-!
# Text

Trimming, cutting and replacing. The functions on `List Char` carry the rules; those on `String`
apply them to the characters of a string.
-/

namespace BundleHost.Text

open Unicode (isWhiteSpace)

/-- The characters without white space at both ends. -/
def trimChars (text : List Char) : List Char :=
  ((text.dropWhile isWhiteSpace).reverse.dropWhile isWhiteSpace).reverse

def trim (text : String) : String := String.ofList (trimChars text.toList)

/-- Nothing but white space. -/
def isBlank (text : String) : Bool := text.toList.all isWhiteSpace

/-- ASCII letters in lower case, all else as it is. -/
def lowerAscii (text : String) : String := String.ofList (text.toList.map Char.toLower)

def upperAscii (text : String) : String := String.ofList (text.toList.map Char.toUpper)

/-- The text before and after the first `mark`. -/
def splitFirst? (mark : Char) : List Char → Option (List Char × List Char)
  | [] => none
  | c :: rest =>
    if c = mark then some ([], rest)
    else (splitFirst? mark rest).map fun (before, after) => (c :: before, after)

/-- The pieces between the characters of a kind, of which there is at least one. -/
def splitWhere (isMark : Char → Bool) : List Char → List (List Char)
  | [] => [[]]
  | c :: rest =>
    if isMark c then [] :: splitWhere isMark rest
    else
      match splitWhere isMark rest with
      | [] => [[c]]
      | piece :: pieces => (c :: piece) :: pieces

/-- The pieces between the occurrences of a character. -/
def splitOn (mark : Char) (text : List Char) : List (List Char) := splitWhere (· = mark) text

/-- The text behind the first occurrence of `mark`. -/
def after? (mark : List Char) : List Char → Option (List Char)
  | [] => if mark.isEmpty then some [] else none
  | c :: rest => (mark.isPrefixOf? (c :: rest)).or (after? mark rest)

/-- Replaces the occurrences of `old` from left to right; `skip` counts the characters that still
belong to the last one. -/
def replaceChars (old new : List Char) (skip : Nat) : List Char → List Char
  | [] => []
  | c :: rest =>
    match skip with
    | skip + 1 => replaceChars old new skip rest
    | 0 =>
      if old.isPrefixOf (c :: rest) then new ++ replaceChars old new (old.length - 1) rest
      else c :: replaceChars old new 0 rest

/-- Every occurrence of the non-empty text `old` replaced by `new`. -/
def replace (text old new : String) : String :=
  String.ofList (replaceChars old.toList new.toList 0 text.toList)

/-- Whether `mark` occurs in the text. -/
def contains (text mark : String) : Bool := (after? mark.toList text.toList).isSome

/-- The text behind a beginning that it has to have. -/
def strip? (beginning : String) (text : List Char) : Option (List Char) :=
  beginning.toList.isPrefixOf? text

/-- The text behind the last occurrence of `mark`, or all of it. -/
def afterLast (mark : List Char) (text : List Char) : List Char :=
  (go text).getD text
where
  go : List Char → Option (List Char)
    | [] => none
    | c :: rest => (go rest).or (mark.isPrefixOf? (c :: rest))

/-- What `find` finds in a text from left to right, each time going on behind what it found; `skip`
counts the characters up to there. -/
def scan {α : Type} (find : List Char → Option (α × List Char)) (skip : Nat) :
    List Char → List α
  | [] => []
  | c :: rest =>
    match skip with
    | skip + 1 => scan find skip rest
    | 0 =>
      match find (c :: rest) with
      | some (found, after) => found :: scan find (rest.length - after.length) rest
      | none => scan find 0 rest

/-- The first line, without its end. -/
def firstLine (text : List Char) : List Char := text.takeWhile (· ≠ '\n')

end BundleHost.Text
