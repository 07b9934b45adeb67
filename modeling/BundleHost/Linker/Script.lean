import BundleHost.Compiler

/-!
# Scripts

A script is the text of a module as the linker sees it: line by line, stretches of code and
references to other modules. A reference is a name in double quotes behind `import`, `import(` or
`require(`.
-/

namespace BundleHost

/-- A place where a script names another module. -/
structure Reference where
  kind : ImportKind
  specifier : String
  /-- The line, from one. -/
  line : Nat
  /-- The column of the opening quote, from zero. -/
  column : Nat
  deriving DecidableEq, Repr

inductive Piece where
  | code (text : List Char)
  | reference (reference : Reference)
  deriving DecidableEq, Repr

structure Script where
  lines : List (List Piece)
  deriving DecidableEq, Repr

namespace Script

def empty : Script := ⟨[]⟩

/-- What makes a reference of the quoted text behind it: the kind, and whether the words that
introduce the reference go with it. -/
def introductions : List (String × ImportKind × Bool) :=
  [("import ", .importStatement, true), ("import(", .dynamicImport, false),
   ("require(", .requireCall, false)]

/-- How code introduces a reference, and the code that stays. -/
def introduced? (code : List Char) : Option (ImportKind × List Char) :=
  introductions.findSome? fun (words, kind, leaves) =>
    if words.toList.isSuffixOf code then
      some (kind, if leaves then code.take (code.length - words.length) else code)
    else none

/-- The pieces of a line that is given as code and quoted texts in turn. -/
def pieces (line column : Nat) : List (List Char) → List Piece
  | [] => []
  | [code] => [.code code]
  | [code, tail] => [.code (code ++ '"' :: tail)]
  | code :: quoted :: rest =>
    let here := column + code.length
    let later := pieces line (here + quoted.length + 2) rest
    match introduced? code with
    | some (kind, before) =>
      .code before :: .reference ⟨kind, String.ofList quoted, line, here⟩ :: later
    | none => .code (code ++ '"' :: (quoted ++ ['"'])) :: later

/-- The column of an equals sign that stands where a constant should have its name. -/
def faultColumn? (line : List Char) : Option Nat :=
  (Text.after? "const =".toList line).map fun rest => line.length - rest.length - 1

/-- The pieces of lines from a number on, or where the first of them cannot be read. -/
def ofLines (number : Nat) : List (List Char) → Except (Nat × Nat) (List (List Piece))
  | [] => .ok []
  | line :: rest =>
    match faultColumn? line with
    | some column => .error (number, column)
    | none => do
      let later ← ofLines (number + 1) rest
      .ok (pieces number 0 (Text.splitOn '"' line) :: later)

/-- The script of a text, or the line and column where it cannot be read. -/
def parse (text : String) : Except (Nat × Nat) Script := do
  .ok ⟨← ofLines 1 (Text.splitOn '\n' text.toList)⟩

def references (script : Script) : List Reference :=
  script.lines.flatten.filterMap fun
    | .reference reference => some reference
    | .code _ => none

/-- A line of code. Import statements leave nothing, other references the name that `rename` gives
them. -/
def renderLine (rename : Reference → String) : List Piece → List Char
  | [] => []
  | .code text :: rest => text ++ renderLine rename rest
  | .reference r :: .code text :: rest =>
    if r.kind = .importStatement then
      (if text.head? = some ';' then text.tail else text) ++ renderLine rename rest
    else '"' :: ((rename r).toList ++ '"' :: (text ++ renderLine rename rest))
  | .reference r :: rest =>
    if r.kind = .importStatement then renderLine rename rest
    else '"' :: ((rename r).toList ++ '"' :: renderLine rename rest)

/-- The code of a script without its import statements and blank lines. -/
def render (rename : Reference → String) (script : Script) : String :=
  String.join (((script.lines.map fun line => String.ofList (renderLine rename line)).filter
    (!Text.isBlank ·)).map (· ++ "\n"))

end Script

end BundleHost
