import BundleHost.Regex.Class

/-!
# Patterns

Reads the text of a pattern into a `Regex`. Patterns have no look-around and no back-references;
an escaped letter without a meaning is refused, and so is a property that the tables do not have.
How large a pattern may be is a limit of this reader, not of expressions in general.
`Regex.parse?` is the entry point.
-/

namespace BundleHost.Regex

/-- The flags in force at a place of a pattern. -/
structure Flags where
  caseless : Bool := false
  multiLine : Bool := false
  dotMatchesNewline : Bool := false
  swapGreed : Bool := false
  unicode : Bool := true
  verbose : Bool := false
  crlf : Bool := false
  deriving DecidableEq, Repr

/-- What is left of a pattern, with the flags in force and the group names already used. -/
structure Cursor where
  rest : List Char
  flags : Flags
  names : List (List Char)

/-- A part of a pattern. `depth` counts how deeply it nests, `weight` how much it expands to. -/
structure Part where
  regex : Regex
  depth : Nat
  weight : Nat
  /-- A group that only sets flags cannot be repeated. -/
  setsFlags : Bool := false

/-- The deepest nesting of a pattern. -/
def depthLimit : Nat := 250

/-- The heaviest pattern. -/
def weightLimit : Nat := 300000

/-- Drops blanks and comments, which do not count in a verbose pattern. -/
def skipVerbose (comment : Bool) : List Char → List Char
  | [] => []
  | c :: rest =>
    if comment then skipVerbose (c ≠ '\n') rest
    else if Unicode.isWhiteSpace c then skipVerbose false rest
    else if c = '#' then skipVerbose true rest
    else c :: rest

def Flags.skip (flags : Flags) (rest : List Char) : List Char :=
  if flags.verbose then skipVerbose false rest else rest

/-- Characters that mean something on their own and can always be escaped. -/
def isMeta (c : Char) : Bool :=
  ['\\', '.', '+', '*', '?', '(', ')', '|', '[', ']', '\x7b', '\x7d', '^', '$', '#', '&', '-',
    '~'].contains c

/-- Characters that may follow a backslash and then stand for themselves. -/
def isEscapable (c : Char) : Bool :=
  isMeta c || (c.toNat < 128 && !c.isAlphanum && c ≠ '<' && c ≠ '>')

/-- What one primitive of a pattern stands for. -/
inductive Primitive where
  /-- A character; `byte` tells that it was written as the value of a byte. -/
  | literal (c : Char) (byte : Bool)
  | dot
  | look (assertion : Flags → Assertion)
  | shorthand (name : CharClass.Shorthand) (negated : Bool)
  | property (name : CharClass) (negated : Bool)

/-- The character with the number that the digits write, if there is one. -/
def charOfHex? (digits : List Char) : Option Char :=
  if digits.isEmpty ∨ digits.any (fun c => (Unicode.hexDigit? c).isNone) then none
  else
    let n := Unicode.hexNat digits
    if h : n.isValidChar then some (Char.ofNatAux n h) else none

/-- Takes `count` hexadecimal digits, with blanks between them in a verbose pattern. -/
def takeHex (flags : Flags) : Nat → List Char → Option (List Char × List Char)
  | 0, rest => some ([], rest)
  | count + 1, c :: rest =>
    if (Unicode.hexDigit? c).isSome then
      (takeHex flags count (flags.skip rest)).map fun (digits, rest) => (c :: digits, rest)
    else none
  | _ + 1, [] => none

/-- Splits a braced text at its closing brace, without blanks in a verbose pattern. -/
def takeBraced (flags : Flags) : Nat → List Char → Option (List Char × List Char)
  | 0, _ => none
  | fuel + 1, rest =>
    match flags.skip rest with
    | [] => none
    | c :: rest =>
      if c = '\x7d' then some ([], rest)
      else (takeBraced flags fuel rest).map fun (name, rest) => (c :: name, rest)

/-- The name in a Unicode class: `name`, `name=value`, `name:value` or `name!=value`. -/
def propertyOfName? (name : List Char) (negated : Bool) : Option Primitive :=
  let splitAt (i width : Nat) : Option CharClass :=
    CharClass.ofNamedValue? (name.take i) (name.drop (i + width))
  let unequal := (List.range name.length).find? fun i => ['!', '='].isPrefixOf (name.drop i)
  match unequal with
  | some i => (splitAt i 2).map fun a => .property a (!negated)
  | none =>
    match name.findIdx? (· = ':') with
    | some i => (splitAt i 1).map fun a => .property a negated
    | none =>
      match name.findIdx? (· = '=') with
      | some i => (splitAt i 1).map fun a => .property a negated
      | none => (CharClass.ofName? name).map fun a => .property a negated

/-- The boundary that `\b\x7bname\x7d` names. -/
def boundaryOfName? (name : List Char) : Option (Flags → Assertion) :=
  match String.ofList name with
  | "start" => some fun flags => .wordStart flags.unicode
  | "end" => some fun flags => .wordEnd flags.unicode
  | "start-half" => some fun flags => .wordStartHalf flags.unicode
  | "end-half" => some fun flags => .wordEndHalf flags.unicode
  | _ => none

/-- Letters and hyphens of the name of a boundary, with blanks dropped in a verbose pattern. -/
def takeBoundaryName (flags : Flags) : Nat → List Char → List Char × List Char
  | fuel + 1, c :: rest =>
    if c.isAlpha || c = '-' then
      let (name, rest) := takeBoundaryName flags fuel (flags.skip rest)
      (c :: name, rest)
    else ([], c :: rest)
  | _, rest => ([], rest)

/-- A word boundary; a brace that no letter or hyphen follows belongs to a repetition. -/
def boundary? (flags : Flags) (rest : List Char) : Option (Primitive × List Char) :=
  let plain : Primitive := .look fun flags => .wordBoundary flags.unicode
  match rest with
  | '\x7b' :: inner =>
    match flags.skip inner with
    | [] => none
    | c :: tail =>
      if c.isAlpha || c = '-' then
        match takeBoundaryName flags (tail.length + 1) (c :: tail) with
        | (name, '\x7d' :: rest) => (boundaryOfName? name).map fun look => (.look look, rest)
        | _ => none
      else some (plain, rest)
  | _ => some (plain, rest)

/-- A character by its number: `\x41`, `\u0041`, `\U00000041` or with braces any number of
digits. -/
def hexEscape? (flags : Flags) (kind : Char) (rest : List Char) :
    Option (Primitive × List Char) :=
  match flags.skip rest with
  | '\x7b' :: inner => do
    let (digits, rest) ← takeBraced flags (inner.length + 1) inner
    let c ← charOfHex? digits
    some (.literal c (kind = 'x' && c.toNat < 256), flags.skip rest)
  | rest => do
    let (digits, rest) ← takeHex flags (if kind = 'x' then 2 else if kind = 'u' then 4 else 8) rest
    let c ← charOfHex? digits
    some (.literal c (kind = 'x'), rest)

/-- A Unicode class after `\p` or `\P`: one letter, or a name in braces. -/
def unicodeClass? (flags : Flags) (negated : Bool) (rest : List Char) :
    Option (Primitive × List Char) :=
  match flags.skip rest with
  | [] => none
  | '\x7b' :: inner => do
    let (name, rest) ← takeBraced flags (inner.length + 1) inner
    let part ← propertyOfName? name negated
    some (part, rest)
  | c :: rest =>
    if c = '\\' then none
    else (CharClass.ofName? [c]).map fun a => (.property a negated, flags.skip rest)

/-- What follows a backslash. -/
def escape? (flags : Flags) : List Char → Option (Primitive × List Char)
  | [] => none
  | c :: rest =>
    let look (assertion : Flags → Assertion) := some (Primitive.look assertion, rest)
    let literal (c : Char) := some (Primitive.literal c false, rest)
    if c = 'x' ∨ c = 'u' ∨ c = 'U' then hexEscape? flags c rest
    else if c = 'p' ∨ c = 'P' then unicodeClass? flags (c = 'P') rest
    else if isEscapable c then literal c
    else
      match c with
      | 'd' => some (.shorthand .digit false, rest)
      | 's' => some (.shorthand .space false, rest)
      | 'w' => some (.shorthand .word false, rest)
      | 'D' => some (.shorthand .digit true, rest)
      | 'S' => some (.shorthand .space true, rest)
      | 'W' => some (.shorthand .word true, rest)
      | 'a' => literal '\x07'
      | 'f' => literal '\x0c'
      | 't' => literal '\t'
      | 'n' => literal '\n'
      | 'r' => literal '\r'
      | 'v' => literal '\x0b'
      | 'A' => look fun _ => .textStart
      | 'z' => look fun _ => .textEnd
      | 'b' => boundary? flags rest
      | 'B' => look fun flags => .notWordBoundary flags.unicode
      | '<' => look fun flags => .wordStart flags.unicode
      | '>' => look fun flags => .wordEnd flags.unicode
      | _ => none

/-- Adds the other cases of letters where the flags ask for it. -/
def Flags.foldClass (flags : Flags) (a : CharClass) : CharClass :=
  if flags.caseless then
    if flags.unicode then .caseless a else .asciiCaseless a
  else a

/-- A class with its case folded and then its complement taken. Without Unicode a class is one of
bytes, which must not reach beyond ASCII. -/
def Flags.classOf? (flags : Flags) (negated : Bool) (a : CharClass) : Option CharClass :=
  let folded := flags.foldClass a
  let a := if negated then .compl folded else folded
  if flags.unicode || a.isAscii then some a else none

/-- The class of a shorthand or a property. -/
def Primitive.class? (flags : Flags) : Primitive → Option CharClass
  | .shorthand name negated =>
    let a := CharClass.ofShorthand flags.unicode name
    let a := if negated then .compl a else a
    if flags.unicode || a.isAscii then some a else none
  | .property a negated =>
    if flags.unicode then flags.classOf? negated a else none
  | _ => none

/-- The character that a literal is, inside brackets. Without Unicode it has to be a byte. -/
def Primitive.member? (flags : Flags) : Primitive → Option Char
  | .literal c byte => if flags.unicode || byte || c.toNat < 128 then some c else none
  | _ => none

/-- How much a class weighs: roughly the states of an automaton for it. -/
def classWeight : CharClass → Nat
  | .empty => 1
  | .interval _ last => if last < 128 then 1 else 4
  | .property .wordChar | .property .alphabetic | .property .lowercase
  | .property .uppercase => 600
  | .property .decimalDigit => 70
  | .property .whiteSpace => 10
  | .property (.category _) => 200
  | .property (.script _) => 20
  | .union a b | .inter a b | .diff a b | .symmDiff a b => classWeight a + classWeight b
  | .compl a | .caseless a | .asciiCaseless a => classWeight a

def partOfClass (a : CharClass) (depth : Nat) : Part := ⟨.set a, depth, classWeight a, false⟩

/-- The part that a primitive outside brackets stands for. -/
def Primitive.part? (flags : Flags) : Primitive → Option Part
  | .literal c byte =>
    if !flags.unicode && byte && 128 ≤ c.toNat then none
    else if flags.caseless && (flags.unicode || c.toNat < 128) then
      some (partOfClass (flags.foldClass (.single c)) 0)
    else some (partOfClass (.single c) 0)
  | .dot =>
    if flags.unicode then
      let lineEnds : CharClass :=
        if flags.crlf then .union (.single '\n') (.single '\r') else .single '\n'
      let a : CharClass := if flags.dotMatchesNewline then .any else .compl lineEnds
      some ⟨.set a, 0, 10, false⟩
    else none
  | .look assertion => some ⟨.look (assertion flags), 0, 1, false⟩
  | primitive => (primitive.class? flags).map (partOfClass · 0)

/-! ## Brackets -/

/-- A set in brackets as far as it is read: the operand before the last operator, with the
operator, and the members since then. -/
structure SetBuilder where
  pending : Option (CharClass × (CharClass → CharClass → CharClass))
  members : CharClass
  depth : Nat

namespace SetBuilder

def start : SetBuilder := ⟨none, .empty, 1⟩

def add (builder : SetBuilder) (a : CharClass) (depth : Nat) : SetBuilder :=
  { builder with members := .union builder.members a, depth := max builder.depth depth }

/-- The set read so far; operators group to the left and bind alike. -/
def result (flags : Flags) (builder : SetBuilder) : CharClass :=
  match builder.pending with
  | some (left, operator) => operator (flags.foldClass left) (flags.foldClass builder.members)
  | none => builder.members

def operator (flags : Flags) (builder : SetBuilder)
    (combine : CharClass → CharClass → CharClass) : SetBuilder :=
  ⟨some (builder.result flags, combine), .empty, builder.depth + 1⟩

end SetBuilder

/-- A named ASCII class such as `[:alpha:]`, after its opening bracket. -/
def asciiClass? (flags : Flags) (rest : List Char) : Option (Option CharClass × List Char) :=
  match rest with
  | ':' :: rest =>
    let (negated, rest) :=
      match rest with
      | '^' :: rest => (true, rest)
      | _ => (false, rest)
    let name := rest.takeWhile (· ≠ ':')
    match rest.dropWhile (· ≠ ':') with
    | ':' :: ']' :: rest =>
      (CharClass.ofAsciiName? (String.ofList name)).map fun a => (flags.classOf? negated a, rest)
    | _ => none
  | _ => none

/-- One item of a set: a primitive or a plain character. -/
def setItem? (flags : Flags) : List Char → Option (Primitive × List Char)
  | [] => none
  | '\\' :: rest => escape? flags rest
  | c :: rest => some (.literal c false, rest)

/-- Leading hyphens and a leading closing bracket of a set are members of it. -/
def leadingMembers (flags : Flags) : Nat → SetBuilder → Bool → List Char →
    Option (SetBuilder × List Char)
  | 0, _, _, _ => none
  | fuel + 1, builder, first, rest =>
    match rest with
    | [] => none
    | '-' :: rest =>
      leadingMembers flags fuel (builder.add (.single '-') 0) false (flags.skip rest)
    | ']' :: rest' =>
      if first then
        match flags.skip rest' with
        | [] => none
        | rest => some (builder.add (.single ']') 0, rest)
      else some (builder, rest)
    | rest => some (builder, rest)

/-- Reads the head of a set, after its opening bracket: whether it is a complement, and its
leading members. -/
def setHead? (flags : Flags) (rest : List Char) : Option (Bool × SetBuilder × List Char) :=
  match flags.skip rest with
  | '^' :: rest =>
    (leadingMembers flags (rest.length + 1) .start true (flags.skip rest)).map (true, ·)
  | rest => (leadingMembers flags (rest.length + 1) .start true rest).map (false, ·)

/-- Reads the members of a set up to its closing bracket. -/
def setBody? (flags : Flags) : Nat → SetBuilder → List Char →
    Option (CharClass × Nat × List Char)
  | 0, _, _ => none
  | fuel + 1, builder, rest =>
    match flags.skip rest with
    | [] => none
    | ']' :: rest => some (builder.result flags, builder.depth, rest)
    | '&' :: '&' :: rest => setBody? flags fuel (builder.operator flags .inter) rest
    | '-' :: '-' :: rest => setBody? flags fuel (builder.operator flags .diff) rest
    | '~' :: '~' :: rest => setBody? flags fuel (builder.operator flags .symmDiff) rest
    | '[' :: rest =>
      match asciiClass? flags rest with
      | some (a, rest) => do setBody? flags fuel (builder.add (← a) 0) rest
      | none => do
        let (negated, inner, rest) ← setHead? flags rest
        let (a, depth, rest) ← setBody? flags fuel inner rest
        let a ← flags.classOf? negated a
        setBody? flags fuel (builder.add a (depth + 1)) rest
    | rest => do
      let (first, rest) ← setItem? flags rest
      let rest := flags.skip rest
      match rest with
      | [] => none
      | '-' :: afterHyphen =>
        let next := (flags.skip afterHyphen).head?
        if next = some ']' ∨ next = some '-' then
          let a ← memberClass? flags first
          setBody? flags fuel (builder.add a 0) rest
        else
          let (last, rest) ← setItem? flags (flags.skip afterHyphen)
          let lo ← first.member? flags
          let hi ← last.member? flags
          if lo.toNat ≤ hi.toNat then
            setBody? flags fuel (builder.add (.interval lo.toNat hi.toNat) 0) rest
          else none
      | _ =>
        let a ← memberClass? flags first
        setBody? flags fuel (builder.add a 0) rest
where
  memberClass? (flags : Flags) (primitive : Primitive) : Option CharClass :=
    ((primitive.member? flags).map .single).or (primitive.class? flags)

/-- A set after its opening bracket. -/
def bracketed? (flags : Flags) (rest : List Char) : Option (Part × List Char) := do
  let (negated, builder, rest) ← setHead? flags rest
  let (a, depth, rest) ← setBody? flags (rest.length + 1) builder rest
  let a ← flags.classOf? negated a
  some (partOfClass a depth, rest)

/-! ## Repetitions -/

def repeatPart? (least : Nat) (most : Option Nat) (part : Part) : Option Part :=
  let weight := part.weight * max 1 (most.getD (least + 1))
  if part.setsFlags ∨ weight > weightLimit then none
  else some ⟨part.regex.repeated least most, part.depth + 1, weight, false⟩

/-- A lazy repetition matches the same texts, so its mark is dropped. -/
def dropLazyMark : List Char → List Char
  | '?' :: rest => rest
  | rest => rest

/-- Drops the blanks that may stand around a number in braces. -/
def dropBlanks (rest : List Char) : List Char := rest.dropWhile Unicode.isWhiteSpace

/-- A number in braces, which has to fit into 32 bits; absent when there is no digit. -/
def count? (flags : Flags) (rest : List Char) : Option (Option Nat × List Char) :=
  let rest := dropBlanks rest
  let rec digits (fuel : Nat) (rest : List Char) : List Char × List Char :=
    match fuel, rest with
    | fuel + 1, c :: rest =>
      if c.isDigit then
        let (more, rest) := digits fuel (flags.skip rest)
        (c :: more, rest)
      else ([], c :: rest)
    | _, rest => ([], rest)
  let (written, rest) := digits rest.length rest
  let n := written.foldl (fun n c => 10 * n + (c.toNat - '0'.toNat)) 0
  if n < UInt32.size then some (if written.isEmpty then none else some n, dropBlanks rest) else none

/-- The bounds of a repetition after its opening brace. -/
def bounds? (flags : Flags) (rest : List Char) : Option ((Nat × Option Nat) × List Char) := do
  let (least, rest) ← count? flags (flags.skip rest)
  let least ← least
  match rest with
  | ',' :: rest =>
    match flags.skip rest with
    | '\x7d' :: rest => some ((least, none), rest)
    | rest =>
      let (most, rest) ← count? flags rest
      let most ← most
      match rest with
      | '\x7d' :: rest => if least ≤ most then some ((least, some most), rest) else none
      | _ => none
  | '\x7d' :: rest => some ((least, some least), rest)
  | _ => none

/-! ## Groups -/

/-- Reads flags up to the colon or the parenthesis that ends them. `cleared` tells whether a
hyphen was read, `seen` which flags were, and `dangling` whether the hyphen came last. -/
def readFlags (flags : Flags) (cleared dangling : Bool) (seen : List Char) :
    List Char → Option (Flags × List Char × List Char)
  | [] => none
  | ':' :: rest => if dangling then none else some (flags, seen, ':' :: rest)
  | ')' :: rest => if dangling then none else some (flags, seen, ')' :: rest)
  | '-' :: rest =>
    if cleared then none else readFlags flags true true ('-' :: seen) rest
  | c :: rest =>
    if seen.contains c then none
    else
      let value := !cleared
      match c with
      | 'i' => readFlags { flags with caseless := value } cleared false (c :: seen) rest
      | 'm' => readFlags { flags with multiLine := value } cleared false (c :: seen) rest
      | 's' => readFlags { flags with dotMatchesNewline := value } cleared false (c :: seen) rest
      | 'U' => readFlags { flags with swapGreed := value } cleared false (c :: seen) rest
      | 'u' => readFlags { flags with unicode := value } cleared false (c :: seen) rest
      | 'R' => readFlags { flags with crlf := value } cleared false (c :: seen) rest
      | 'x' => readFlags { flags with verbose := value } cleared false (c :: seen) rest
      | _ => none

/-- Whether `name` can name a group: a letter or an underscore, then also digits, dots and
square brackets. -/
def isGroupName (name : List Char) : Bool :=
  let isAlphanumeric (c : Char) : Bool :=
    Unicode.isAlphabetic c ||
      [.decimalNumber, .letterNumber, .otherNumber].contains (Unicode.Category.of c)
  match name with
  | [] => false
  | c :: rest =>
    (c = '_' || Unicode.isAlphabetic c) &&
      rest.all fun c => c = '_' || c = '.' || c = '[' || c = ']' || isAlphanumeric c

/-- What the beginning of a group says. -/
inductive GroupHead where
  | opens (cursor : Cursor)
  | setsFlags (cursor : Cursor)

/-- Reads the beginning of a group, after its parenthesis. -/
def groupHead? (cursor : Cursor) : Option GroupHead :=
  let named (rest : List Char) : Option GroupHead :=
    let name := rest.takeWhile (· ≠ '>')
    match rest.dropWhile (· ≠ '>') with
    | [] => none
    | _ :: rest =>
      if isGroupName name && !cursor.names.contains name then
        some (.opens { cursor with rest, names := name :: cursor.names })
      else none
  match cursor.flags.skip cursor.rest with
  | '?' :: '=' :: _ | '?' :: '!' :: _ | '?' :: '<' :: '=' :: _ | '?' :: '<' :: '!' :: _ => none
  | '?' :: 'P' :: '<' :: rest => named rest
  | '?' :: '<' :: rest => named rest
  | '?' :: rest => do
    let (flags, seen, rest) ← readFlags cursor.flags false false [] rest
    match rest with
    | ')' :: rest =>
      if seen.isEmpty then none else some (.setsFlags { cursor with rest, flags })
    | _ :: rest => some (.opens { cursor with rest, flags })
    | [] => none
  | rest => some (.opens { cursor with rest })

/-! ## Whole patterns -/

/-- The parts of one branch, in reverse order, as one part. -/
def joinBranch (parts : List Part) : Part :=
  match parts with
  | [] => ⟨.empty, 0, 1, false⟩
  | [part] => { part with setsFlags := false }
  | parts =>
    ⟨parts.foldl (fun rest part => append part.regex rest) .empty,
      (parts.map (·.depth)).foldl Nat.max 0 + 1,
      (parts.map (·.weight)).foldl Nat.add 0, false⟩

/-- The branches of an alternation, in reverse order, as one part. -/
def joinAlternation (branches : List Part) : Part :=
  match branches with
  | [] => ⟨.empty, 0, 1, false⟩
  | [branch] => branch
  | last :: before =>
    ⟨before.foldl (fun rest branch => .alt branch.regex rest) last.regex,
      (branches.map (·.depth)).foldl Nat.max 0 + 1,
      (branches.map (·.weight)).foldl Nat.add 0, false⟩

def assertionOfAnchor (start : Bool) (flags : Flags) : Assertion :=
  if start then if flags.multiLine then .lineStart flags.crlf else .textStart
  else if flags.multiLine then .lineEnd flags.crlf else .textEnd

/-- Reads alternatives up to a closing parenthesis, which is left in place, or to the end. Every
step consumes a character, so the length of the pattern is enough fuel. -/
def alternation? : Nat → List Part → List Part → Cursor → Option (Part × Cursor)
  | 0, _, _, _ => none
  | fuel + 1, branches, parts, cursor =>
    let flags := cursor.flags
    let finish (rest : List Char) : Option (Part × Cursor) :=
      some (joinAlternation (joinBranch parts :: branches), { cursor with rest })
    let push (part : Part) (rest : List Char) : Option (Part × Cursor) :=
      alternation? fuel branches (part :: parts) { cursor with rest }
    let repetition (least : Nat) (most : Option Nat) (rest : List Char) :
        Option (Part × Cursor) :=
      match parts with
      | [] => none
      | part :: parts => do
        let part ← repeatPart? least most part
        alternation? fuel branches (part :: parts) { cursor with rest := dropLazyMark rest }
    let primitive (found : Option (Primitive × List Char)) : Option (Part × Cursor) := do
      let (primitive, rest) ← found
      push (← primitive.part? flags) rest
    match flags.skip cursor.rest with
    | [] => finish []
    | ')' :: rest => finish (')' :: rest)
    | '|' :: rest =>
      alternation? fuel (joinBranch parts :: branches) [] { cursor with rest }
    | '[' :: rest => do
      let (part, rest) ← bracketed? flags rest
      push part rest
    | '?' :: rest => repetition 0 (some 1) rest
    | '*' :: rest => repetition 0 none rest
    | '+' :: rest => repetition 1 none rest
    | '\x7b' :: rest => do
      let ((least, most), rest) ← bounds? flags rest
      repetition least most (flags.skip rest)
    | '(' :: rest => do
      match ← groupHead? { cursor with rest } with
      | .setsFlags cursor => alternation? fuel branches (⟨.empty, 0, 0, true⟩ :: parts) cursor
      | .opens inside =>
        let (part, after) ← alternation? fuel [] [] inside
        match after.rest with
        | ')' :: rest =>
          alternation? fuel branches ({ part with depth := part.depth + 1 } :: parts)
            { cursor with rest, names := after.names }
        | _ => none
    | '\\' :: rest => primitive (escape? flags rest)
    | '.' :: rest => primitive (some (.dot, rest))
    | '^' :: rest => primitive (some (.look (assertionOfAnchor true), rest))
    | '$' :: rest => primitive (some (.look (assertionOfAnchor false), rest))
    | c :: rest => primitive (some (.literal c false, rest))

/-- The expression that a pattern writes, or nothing when the pattern is malformed, nested too
deeply or too large. -/
def parse? (pattern : String) : Option Regex := do
  let characters := pattern.toList
  let (part, cursor) ← alternation? (characters.length + 1) [] [] ⟨characters, {}, []⟩
  if cursor.rest.isEmpty ∧ part.depth ≤ depthLimit ∧ part.weight ≤ weightLimit then
    some part.regex
  else none

end BundleHost.Regex
