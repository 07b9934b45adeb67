import BundleHost.Toml.Tree
import BundleHost.Toml.Scalar

/-!
# Reading TOML

Reads a TOML text line by line into a document: headers open tables, and every other line gives a
key its value.
-/

namespace BundleHost.Toml

/-- The deepest nesting of lists and inline tables. -/
def depthLimit : Nat := 80

def isBlank (c : Char) : Bool := c = ' ' || c = '\t'

def skipBlanks (text : List Char) : List Char := text.dropWhile isBlank

/-- What follows the end of a line. -/
def lineEnd? : List Char → Option (List Char)
  | '\n' :: rest => some rest
  | '\r' :: '\n' :: rest => some rest
  | _ => none

/-- Characters of comments and of strings: the tab and all that is no control. -/
def isPlain (c : Char) : Bool := c = '\t' || (0x20 ≤ c.toNat && c.toNat ≠ 0x7F)

/-- Skips a comment up to the end of its line. -/
def skipComment : List Char → Option (List Char)
  | '#' :: rest =>
    let rest := rest.dropWhile isPlain
    if rest.isEmpty || (lineEnd? rest).isSome then some rest else none
  | rest => some rest

/-- What follows a finished line. -/
def endLine (text : List Char) : Option (List Char) := do
  let rest ← skipComment (skipBlanks text)
  if rest.isEmpty then some [] else lineEnd? rest

/-- Skips blanks, comments and line ends. -/
def skipLines : Nat → List Char → Option (List Char)
  | 0, _ => none
  | fuel + 1, text => do
    let rest ← skipComment (skipBlanks text)
    match lineEnd? rest with
    | some rest => skipLines fuel rest
    | none => some rest

/-! ## Strings -/

/-- The character that an escape writes, after its backslash. -/
def escape? : List Char → Option (Char × List Char)
  | 'b' :: rest => some ('\x08', rest)
  | 't' :: rest => some ('\t', rest)
  | 'n' :: rest => some ('\n', rest)
  | 'f' :: rest => some ('\x0c', rest)
  | 'r' :: rest => some ('\r', rest)
  | '"' :: rest => some ('"', rest)
  | '\\' :: rest => some ('\\', rest)
  | 'u' :: rest => hex 4 rest
  | 'U' :: rest => hex 8 rest
  | _ => none
where
  hex (width : Nat) (rest : List Char) : Option (Char × List Char) :=
    let digits := rest.take width
    let n := Unicode.hexNat digits
    if h : n.isValidChar then
      if digits.length = width ∧ digits.all isHex then
        some (Char.ofNatAux n h, rest.drop width)
      else none
    else none

/-- A string in double quotes on one line, after the opening quote. -/
def basicString : Nat → List Char → Option (List Char × List Char)
  | 0, _ => none
  | fuel + 1, text =>
    match text with
    | '"' :: rest => some ([], rest)
    | '\\' :: rest => do
      let (c, rest) ← escape? rest
      let (text, rest) ← basicString fuel rest
      some (c :: text, rest)
    | c :: rest =>
      if isPlain c then (basicString fuel rest).map fun (text, rest) => (c :: text, rest) else none
    | [] => none

def literalString (text : List Char) : Option (List Char × List Char) :=
  match text.span fun c => c ≠ '\'' && isPlain c with
  | (content, '\'' :: rest) => some (content, rest)
  | _ => none

/-- The end of a string in triple quotes: up to two quotes more than three belong to it. -/
def closing? (quote : Char) (text : List Char) : Option (List Char × List Char) :=
  let quotes := (text.takeWhile (· = quote)).length
  if quotes < 3 then none
  else
    let inner := min (quotes - 3) 2
    some (List.replicate inner quote, text.drop (inner + 3))

/-- Skips blanks and line ends. -/
def skipSpace : List Char → List Char
  | '\r' :: '\n' :: rest => skipSpace rest
  | c :: rest => if isBlank c || c = '\n' then skipSpace rest else c :: rest
  | [] => []

/-- Skips blanks and line ends after a backslash at the end of a line. -/
def skipContinuation (text : List Char) : Option (List Char) :=
  if (lineEnd? (skipBlanks text)).isSome then some (skipSpace text) else none

/-- A string in triple quotes, after the opening ones. Only with double quotes a backslash
escapes. -/
def blockString (quote : Char) : Nat → List Char → Option (List Char × List Char)
  | 0, _ => none
  | fuel + 1, text =>
    match closing? quote text with
    | some (content, rest) => some (content, rest)
    | none =>
      let more (content rest : List Char) : Option (List Char × List Char) :=
        (blockString quote fuel rest).map fun (text, rest) => (content ++ text, rest)
      match lineEnd? text with
      | some rest => more ['\n'] rest
      | none =>
        match text with
        | [] => none
        | c :: rest =>
          if c = '\\' ∧ quote = '"' then
            match skipContinuation rest with
            | some rest => more [] rest
            | none => do
              let (c, rest) ← escape? rest
              more [c] rest
          else if isPlain c then more [c] rest
          else none

/-- A string of any kind. -/
def string? (text : List Char) : Option (List Char × List Char) :=
  let block (quote : Char) (rest : List Char) : Option (List Char × List Char) :=
    blockString quote (rest.length + 1) ((lineEnd? rest).getD rest)
  match text with
  | '"' :: '"' :: '"' :: rest => block '"' rest
  | '\'' :: '\'' :: '\'' :: rest => block '\'' rest
  | '"' :: rest => basicString (rest.length + 1) rest
  | '\'' :: rest => literalString rest
  | _ => none

/-! ## Keys -/

def isKeyChar (c : Char) : Bool := c.isAlphanum || c = '-' || c = '_'

def simpleKey (text : List Char) : Option (String × List Char) :=
  match text with
  | '"' :: rest =>
    (basicString (rest.length + 1) rest).map fun (key, rest) => (String.ofList key, rest)
  | '\'' :: rest => (literalString rest).map fun (key, rest) => (String.ofList key, rest)
  | _ =>
    let key := text.takeWhile isKeyChar
    if key.isEmpty then none else some (String.ofList key, text.dropWhile isKeyChar)

/-- A key with dots between its parts, and blanks around them. -/
def dottedKey : Nat → List Char → Option (List String × List Char)
  | 0, _ => none
  | fuel + 1, text => do
    let (key, rest) ← simpleKey (skipBlanks text)
    match skipBlanks rest with
    | '.' :: rest =>
      let (keys, rest) ← dottedKey fuel rest
      some (key :: keys, rest)
    | rest => some ([key], rest)

def key? (text : List Char) : Option (List String × List Char) :=
  dottedKey (text.length + 1) text

/-! ## Values -/

def isWordChar (c : Char) : Bool :=
  c.isAlphanum || c = '+' || c = '-' || c = '_' || c = '.' || c = ':'

/-- A word; a blank between a date and a time belongs to it. -/
def word (text : List Char) : List Char × List Char :=
  let first := text.takeWhile isWordChar
  let rest := text.dropWhile isWordChar
  match rest with
  | ' ' :: a :: b :: ':' :: _ =>
    if a.isDigit && b.isDigit && (date? first).any (·.2.isEmpty) then
      (first ++ ' ' :: (rest.drop 1).takeWhile isWordChar, (rest.drop 1).dropWhile isWordChar)
    else (first, rest)
  | _ => (first, rest)

mutual

def value : Nat → Nat → List Char → Option (Document × List Char)
  | 0, _, _ => none
  | fuel + 1, depth, text =>
    match text with
    | '"' :: _ | '\'' :: _ =>
      (string? text).map fun (s, rest) => (.text (String.ofList s), rest)
    | '[' :: rest =>
      match depth with
      | 0 => none
      | depth + 1 => (items fuel depth rest).map fun (items, rest) => (.list items, rest)
    | '\x7b' :: rest =>
      match depth with
      | 0 => none
      | depth + 1 => do
        match skipBlanks rest with
        | '\x7d' :: rest => some (.table [], rest)
        | rest =>
          let (body, rest) ← pairs fuel depth .root rest
          some (body.toNode.toDocument, rest)
    | _ =>
      let (word, rest) := word text
      (scalar? word).map fun document => (document, rest)

/-- The items of a list, which may stand on several lines, up to its closing bracket. -/
def items : Nat → Nat → List Char → Option (List Document × List Char)
  | 0, _, _ => none
  | fuel + 1, depth, text => do
    match ← skipLines (text.length + 1) text with
    | ']' :: rest => some ([], rest)
    | start =>
      let (item, rest) ← value fuel depth start
      match ← skipLines (rest.length + 1) rest with
      | ']' :: rest => some ([item], rest)
      | ',' :: rest =>
        let (items, rest) ← items fuel depth rest
        some (item :: items, rest)
      | _ => none

/-- The entries of an inline table from its first one up to the closing brace. -/
def pairs : Nat → Nat → Body → List Char → Option (Body × List Char)
  | 0, _, _, _ => none
  | fuel + 1, depth, body, text => do
    let (path, rest) ← key? text
    let '=' :: rest := rest | none
    let (document, rest) ← value fuel depth (skipBlanks rest)
    let body ← body.assign path document
    match skipBlanks rest with
    | '\x7d' :: rest => some (body, rest)
    | ',' :: rest => pairs fuel depth body rest
    | _ => none

end

/-! ## Lines -/

/-- Reads lines into the tree, where `current` is the path of the last header. -/
def lines : Nat → Body → List String → List Char → Option Body
  | 0, _, _, _ => none
  | fuel + 1, root, current, text => do
    match ← skipLines (text.length + 1) text with
    | [] => some root
    | '[' :: '[' :: rest =>
      let (path, rest) ← key? rest
      let ']' :: ']' :: rest := rest | none
      lines fuel (← root.openItem path) path (← endLine rest)
    | '[' :: rest =>
      let (path, rest) ← key? rest
      let ']' :: rest := rest | none
      lines fuel (← root.openTable path) path (← endLine rest)
    | start =>
      let (path, rest) ← key? start
      let '=' :: rest := rest | none
      let rest := skipBlanks rest
      let (document, rest) ← value (2 * rest.length + 2) depthLimit rest
      let root ← root.update false current fun body => body.assign path document
      lines fuel root current (← endLine rest)

/-- The document that a text writes, if it is TOML. A byte order mark in front does not count. -/
def parse? (text : String) : Option Document :=
  let characters := text.toList
  let characters := if characters.head? = some '\uFEFF' then characters.drop 1 else characters
  (lines (characters.length + 1) .root [] characters).map fun body => body.toNode.toDocument

end BundleHost.Toml
