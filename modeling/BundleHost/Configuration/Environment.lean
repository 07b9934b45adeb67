import BundleHost.Document
import BundleHost.Text.Basic
import BundleHost.Toml.Reader

/-!
# Configuration by environment variables

A variable whose name begins with the marker of the program, in any case, gives the value of one
key; two underscores lead into a table. A text that looks like a boolean, a number, a list, a table
or a quoted text is read as such, any other text stands for itself.
-/

namespace BundleHost.Environment

/-! ## Values -/

def isBlank (c : Char) : Bool := c = ' ' || c = '\t' || c = '\n' || c = '\x0c' || c = '\r'

def skipBlanks (text : List Char) : List Char := text.dropWhile isBlank

def isSeparator (c : Char) : Bool :=
  c = ',' || c = '\x7b' || c = '\x7d' || c = '[' || c = ']'

/-- Whether decimal digits follow a sign, if any: with a mark, an exponent, or both. -/
def isFloat (word : List Char) : Bool :=
  let body := (Toml.splitSign word).2
  let (whole, rest) := Json.takeDigits body
  let (fraction, rest) :=
    match rest with
    | '.' :: rest => Json.takeDigits rest
    | _ => ([], rest)
  let exponentFits :=
    match rest with
    | [] => true
    | c :: rest =>
      let digits := (Toml.splitSign rest).2
      (c = 'e' || c = 'E') && !digits.isEmpty && digits.all Char.isDigit
  !(whole.isEmpty && fraction.isEmpty) && exponentFits

/-- An integer of 64 bits, without a sign or with one. -/
def integer? (word : List Char) : Option Int :=
  let (sign, digits) := Toml.splitSign word
  let n := Json.natOfDigits digits
  if digits.isEmpty || !digits.all Char.isDigit then none
  else if sign = some true then if n ≤ Document.intLimit then some (-n) else none
  else if n < UInt64.size then some n
  else none

/-- The value of a word without separators. -/
def ofWord (word : List Char) : Document :=
  let word := Text.trimChars word
  if word.contains '.' && isFloat word then .float (String.ofList word)
  else
    match integer? word with
    | some n => .int n
    | none => .text (String.ofList word)

def isKeyChar (c : Char) : Bool := c.isAlphanum || c = '-' || c = '_'

/-- A key of a table in a text: a word or a quoted text. -/
def key? (text : List Char) : Option (String × List Char) :=
  match skipBlanks text with
  | '"' :: rest => (Toml.basicString rest.length rest).map fun (key, rest) =>
      (String.ofList key, skipBlanks rest)
  | text =>
    match text.span isKeyChar with
    | ([], _) => none
    | (key, rest) => some (String.ofList key, skipBlanks rest)

mutual

/-- A value and the text behind it. -/
def value? : Nat → List Char → Option (Document × List Char)
  | 0, _ => none
  | fuel + 1, text => do
    let (document, rest) ←
      match skipBlanks text with
      | 't' :: 'r' :: 'u' :: 'e' :: rest => some (.bool true, rest)
      | 'f' :: 'a' :: 'l' :: 's' :: 'e' :: rest => some (.bool false, rest)
      | '\x7b' :: rest => (entries? fuel rest).map fun (found, rest) => (.table found, rest)
      | '[' :: rest => (items? fuel rest).map fun (found, rest) => (.list found, rest)
      | '"' :: rest => (Toml.basicString rest.length rest).map fun (text, rest) =>
          (.text (String.ofList text), rest)
      | '\'' :: c :: '\'' :: rest => some (.char c, rest)
      | '\'' :: _ => none
      | text =>
        let (word, rest) := text.span (!isSeparator ·)
        some (ofWord word, rest)
    some (document, skipBlanks rest)

/-- The items of a list, after its opening bracket. -/
def items? : Nat → List Char → Option (List Document × List Char)
  | 0, _ => none
  | fuel + 1, text =>
    match text with
    | ']' :: rest => some ([], rest)
    | _ => do
      let (item, rest) ← value? fuel text
      match rest with
      | ',' :: rest => (items? fuel rest).map fun (found, rest) => (item :: found, rest)
      | ']' :: rest => some ([item], rest)
      | _ => none

/-- The entries of a table, after its opening brace. -/
def entries? : Nat → List Char → Option (List (String × Document) × List Char)
  | 0, _ => none
  | fuel + 1, text =>
    match text with
    | '\x7d' :: rest => some ([], rest)
    | _ => do
      let (key, rest) ← key? text
      match rest with
      | '=' :: rest =>
        let (value, rest) ← value? fuel rest
        match rest with
        | ',' :: rest => (entries? fuel rest).map fun (found, rest) => ((key, value) :: found, rest)
        | '\x7d' :: rest => some ([(key, value)], rest)
        | _ => none
      | _ => none

end

/-- The value that the text of a variable gives. -/
def valueOf (text : String) : Document :=
  match value? (2 * text.length + 2) text.toList with
  | some (document, []) => document.unique
  | _ => .text text

/-! ## Names -/

/-- The beginning of the names that count, in lower case. -/
def marker : List Char := ['k', 'e', 'e', 'l', '_']

/-- The keys that the name of a variable leads through, if it counts. -/
def keys? (name : String) : Option (List String) := do
  let name := (Text.trim name).toList
  if marker.isPrefixOf (name.map Char.toLower) then
    let path := Text.replace (String.ofList (name.drop marker.length)) "__" "."
    let keys := (Text.splitOn '.' (Text.lowerAscii (Text.trim path)).toList).map String.ofList
    if keys.any (·.isEmpty) then none else some keys
  else none

/-- A document inside tables with one key each. -/
def nest : List String → Document → Document
  | [], document => document
  | key :: keys, document => .table [(key, nest keys document)]

end BundleHost.Environment
