import BundleHost.Document
import BundleHost.Unicode.Table

/-!
# Reading JSON

Reads the characters of a JSON text into a document. Integers that fit into 64 bits, signed or
unsigned, are integers; all other numbers are floats. Keys are kept as they are written, repeated
ones included.
-/

namespace BundleHost.Json

/-- The deepest nesting of lists and tables. -/
def depthLimit : Nat := 127

def isBlank (c : Char) : Bool := c = ' ' || c = '\n' || c = '\t' || c = '\r'

def skipBlanks (text : List Char) : List Char := text.dropWhile isBlank

/-! ## Strings -/

/-- The number that four hexadecimal digits write. -/
def hex4? (a b c d : Char) : Option Nat := do
  let a ← Unicode.hexDigit? a
  let b ← Unicode.hexDigit? b
  let c ← Unicode.hexDigit? c
  let d ← Unicode.hexDigit? d
  some (4096 * a + 256 * b + 16 * c + d)

/-- The character that a backslash and this letter write. -/
def shortEscape? : Char → Option Char
  | '"' => some '"'
  | '\\' => some '\\'
  | '/' => some '/'
  | 'b' => some '\x08'
  | 'f' => some '\x0c'
  | 'n' => some '\n'
  | 'r' => some '\r'
  | 't' => some '\t'
  | _ => none

/-- The text of a string up to its closing quote, after the opening one. A surrogate has to stand
in a pair. -/
def readString : List Char → Option (List Char × List Char)
  | [] => none
  | '"' :: rest => some ([], rest)
  | '\\' :: 'u' :: a :: b :: c :: d :: rest =>
    match hex4? a b c d with
    | none => none
    | some unit =>
      if 0xD800 ≤ unit ∧ unit < 0xDC00 then
        match rest with
        | '\\' :: 'u' :: a :: b :: c :: d :: rest =>
          match hex4? a b c d with
          | none => none
          | some low =>
            if 0xDC00 ≤ low ∧ low < 0xE000 then
              (readString rest).map fun (text, rest) =>
                (Char.ofNat (0x10000 + 0x400 * (unit - 0xD800) + (low - 0xDC00)) :: text, rest)
            else none
        | _ => none
      else if 0xDC00 ≤ unit ∧ unit < 0xE000 then none
      else (readString rest).map fun (text, rest) => (Char.ofNat unit :: text, rest)
  | '\\' :: c :: rest =>
    match shortEscape? c with
    | none => none
    | some c => (readString rest).map fun (text, rest) => (c :: text, rest)
  | c :: rest =>
    if c.toNat < 0x20 || c = '\\' then none
    else (readString rest).map fun (text, rest) => (c :: text, rest)

/-! ## Numbers -/

def takeDigits (text : List Char) : List Char × List Char :=
  (text.takeWhile Char.isDigit, text.dropWhile Char.isDigit)

/-- The number that decimal digits write. -/
def natOfDigits (digits : List Char) : Nat :=
  digits.foldl (fun n c => 10 * n + (c.toNat - '0'.toNat)) 0

/-- Digits without a leading zero, unless zero is the only digit. -/
def readWhole (text : List Char) : Option (List Char × List Char) :=
  match text with
  | '0' :: rest => if rest.head?.any Char.isDigit then none else some (['0'], rest)
  | _ =>
    let (digits, rest) := takeDigits text
    if digits.isEmpty then none else some (digits, rest)

/-- The digits behind a point, where there is one. -/
def readFraction (text : List Char) : Option (List Char × List Char) :=
  match text with
  | '.' :: rest =>
    let (digits, rest) := takeDigits rest
    if digits.isEmpty then none else some (digits, rest)
  | _ => some ([], text)

/-- The exponent, where there is one. -/
def readExponent (text : List Char) : Option (Option Int × List Char) :=
  let magnitude (negative : Bool) (text : List Char) : Option (Option Int × List Char) :=
    let (digits, rest) := takeDigits text
    if digits.isEmpty then none
    else
      let n : Int := natOfDigits digits
      some (some (if negative then -n else n), rest)
  match text with
  | 'e' :: rest | 'E' :: rest =>
    match rest with
    | '-' :: rest => magnitude true rest
    | '+' :: rest => magnitude false rest
    | rest => magnitude false rest
  | _ => some (none, text)

/-- Whether `digits * 10 ^ exponent` rounds to a finite number of double precision. -/
def isFinite (digits : Nat) (exponent : Int) : Bool :=
  let limit := 1 <<< 1024 - 1 <<< 970
  if digits = 0 then true
  else if exponent > 400 then false
  else if exponent ≥ 0 then digits * Nat.pow 10 exponent.toNat < limit
  else if (Nat.toDigits 10 digits).length < (-exponent).toNat then true
  else digits < limit * Nat.pow 10 (-exponent).toNat

/-- A number, which may begin with a minus sign. -/
def readNumber (text : List Char) : Option (Document × List Char) := do
  let (negative, start) :=
    match text with
    | '-' :: rest => (true, rest)
    | _ => (false, text)
  let (whole, rest) ← readWhole start
  let (fraction, rest) ← readFraction rest
  let (exponent, rest) ← readExponent rest
  let n := natOfDigits whole
  let float : Document := .float (String.ofList (text.take (text.length - rest.length)))
  if fraction.isEmpty ∧ exponent.isNone then
    if negative then
      if 0 < n ∧ n ≤ Document.intLimit then some (.int (-n), rest)
      else if isFinite n 0 then some (float, rest) else none
    else if n < UInt64.size then some (.int n, rest)
    else if isFinite n 0 then some (float, rest) else none
  else if isFinite (natOfDigits (whole ++ fraction)) (exponent.getD 0 - fraction.length) then
    some (float, rest)
  else none

/-! ## Values -/

/-- A value that is no list and no table. -/
def readScalar (text : List Char) : Option (Document × List Char) :=
  match text with
  | '"' :: rest => (readString rest).map fun (text, rest) => (.text (String.ofList text), rest)
  | 'n' :: 'u' :: 'l' :: 'l' :: rest => some (.null, rest)
  | 't' :: 'r' :: 'u' :: 'e' :: rest => some (.bool true, rest)
  | 'f' :: 'a' :: 'l' :: 's' :: 'e' :: rest => some (.bool false, rest)
  | _ => readNumber text

/-- A key with its colon. -/
def readKey (text : List Char) : Option (String × List Char) :=
  match text with
  | '"' :: rest =>
    match readString rest with
    | some (key, rest) =>
      match skipBlanks rest with
      | ':' :: rest => some (String.ofList key, rest)
      | _ => none
    | none => none
  | _ => none

mutual

/-- A value and what follows it; `depth` is the nesting that is still allowed. -/
def readValue : Nat → Nat → List Char → Option (Document × List Char)
  | 0, _, _ => none
  | fuel + 1, depth, text =>
    match skipBlanks text with
    | '[' :: rest =>
      match depth with
      | 0 => none
      | depth + 1 =>
        match skipBlanks rest with
        | ']' :: rest => some (.list [], rest)
        | rest => (readItems fuel depth rest).map fun (items, rest) => (.list items, rest)
    | '\x7b' :: rest =>
      match depth with
      | 0 => none
      | depth + 1 =>
        match skipBlanks rest with
        | '\x7d' :: rest => some (.table [], rest)
        | rest => (readEntries fuel depth rest).map fun (entries, rest) => (.table entries, rest)
    | text => readScalar text

/-- The items of a list from its first one up to the closing bracket. -/
def readItems : Nat → Nat → List Char → Option (List Document × List Char)
  | 0, _, _ => none
  | fuel + 1, depth, text =>
    match readValue fuel depth text with
    | none => none
    | some (item, rest) =>
      match skipBlanks rest with
      | ']' :: rest => some ([item], rest)
      | ',' :: rest => (readItems fuel depth rest).map fun (items, rest) => (item :: items, rest)
      | _ => none

/-- The entries of a table from its first one up to the closing brace. -/
def readEntries : Nat → Nat → List Char → Option (List (String × Document) × List Char)
  | 0, _, _ => none
  | fuel + 1, depth, text =>
    match readKey (skipBlanks text) with
    | none => none
    | some (key, rest) =>
      match readValue fuel depth rest with
      | none => none
      | some (value, rest) =>
        match skipBlanks rest with
        | '\x7d' :: rest => some ([(key, value)], rest)
        | ',' :: rest =>
          (readEntries fuel depth rest).map fun (entries, rest) => ((key, value) :: entries, rest)
        | _ => none

end

/-- A value and what follows it. Every step of the reading takes a character or goes one level
down, so that twice the length of the text is enough fuel. -/
def read? (text : List Char) : Option (Document × List Char) :=
  readValue (2 * text.length + 2) depthLimit text

/-- The document that a text writes, if it is JSON. -/
def parse? (text : String) : Option Document :=
  match read? text.toList with
  | some (document, rest) => if (skipBlanks rest).isEmpty then some document else none
  | none => none

end BundleHost.Json
