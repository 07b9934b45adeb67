import BundleHost.Text.Basic

/-!
# Paths

Paths are texts with slashes, treated without looking at a disk. The components of a path are its
names and its dots; repeated slashes, trailing slashes and a dot behind another component do not
count.
-/

namespace BundleHost.Path

inductive Component where
  | root
  /-- A dot that begins a relative path. -/
  | current
  | up
  | name (name : String)
  deriving DecidableEq, Repr

def isAbsolute (path : String) : Bool := path.toList.head? = some '/'

/-- The pieces between slashes, without the empty one before a leading slash. -/
def pieces (path : String) : List (List Char) :=
  let parts := Text.splitOn '/' path.toList
  if isAbsolute path then parts.drop 1 else parts

/-- Whether a piece behind the first one is no component. -/
def isIdle (piece : List Char) : Bool := piece.isEmpty || piece = ['.']

def componentOfPiece (piece : List Char) : Component :=
  if piece = ['.', '.'] then .up else .name (String.ofList piece)

def components (path : String) : List Component :=
  let rest (pieces : List (List Char)) := (pieces.filter (!isIdle ·)).map componentOfPiece
  if isAbsolute path then .root :: rest (pieces path)
  else
    match pieces path with
    | ['.'] :: more => .current :: rest more
    | parts => rest parts

/-- The path that leads from `base` to `path`: an absolute path stands for itself. -/
def join (base path : String) : String :=
  if isAbsolute path then path
  else if base.isEmpty || base.toList.getLast? = some '/' then base ++ path
  else base ++ "/" ++ path

/-- Drops trailing pieces that are no components; the first one of a relative path is kept. -/
def dropIdle (absolute : Bool) (pieces : List (List Char)) : List (List Char) :=
  match absolute, pieces with
  | false, first :: rest =>
    let rest := (rest.reverse.dropWhile isIdle).reverse
    if rest.isEmpty && first.isEmpty then [] else first :: rest
  | _, pieces => (pieces.reverse.dropWhile isIdle).reverse

/-- The path without its last component, if it has one besides the root. -/
def parent? (path : String) : Option String :=
  let absolute := isAbsolute path
  match dropIdle absolute (pieces path) with
  | [] => none
  | parts =>
    let kept := dropIdle absolute parts.dropLast
    let text := String.intercalate "/" (kept.map String.ofList)
    some (if absolute then "/" ++ text else text)

/-- The last component when it is a name. -/
def fileName? (path : String) : Option String :=
  match (components path).getLast? with
  | some (.name name) => some name
  | _ => none

/-- The name's part before its last dot, and the part behind it; a dot at the start of the name
separates nothing. -/
def splitExtension (name : String) : String × Option String :=
  match Text.splitFirst? '.' name.toList.reverse with
  | some (extension, stem) =>
    if stem.isEmpty then (name, none)
    else (String.ofList stem.reverse, some (String.ofList extension.reverse))
  | none => (name, none)

def extension? (path : String) : Option String :=
  (fileName? path).bind fun name => (splitExtension name).2

/-- The file name without its extension. -/
def stem? (path : String) : Option String :=
  (fileName? path).map fun name => (splitExtension name).1

/-- One component more on a cleaned path, which is kept in reverse order: a step up undoes the
name before it and does nothing at the root. -/
def cleanStep (out : List Component) : Component → List Component
  | .current => out
  | .up =>
    match out with
    | .root :: _ => out
    | .name _ :: rest => rest
    | _ => .up :: out
  | component => component :: out

/-- The components of a path after undoing the steps up that can be undone. -/
def cleanComponents (path : String) : List Component :=
  ((components path).foldl cleanStep []).reverse

def componentText : Component → String
  | .root => "/"
  | .current => "."
  | .up => ".."
  | .name name => name

/-- The path with these components. -/
def ofComponents : List Component → String
  | .root :: rest => "/" ++ String.intercalate "/" (rest.map componentText)
  | components => String.intercalate "/" (components.map componentText)

/-- The shortest path that leads to the same place if no directory is a link: without idle dots,
repeated or trailing slashes, and without steps up behind a name. -/
def clean (path : String) : String :=
  match cleanComponents path with
  | [] => "."
  | components => ofComponents components

/-- The components that lead from one place to another: up to the last common one, then down. -/
def stepsBetween : List Component → List Component → List Component
  | a :: base, b :: path =>
    if a = b then stepsBetween base path else (a :: base).map (fun _ => .up) ++ b :: path
  | base, path => base.map (fun _ => .up) ++ path

/-- An absolute path as seen from an absolute directory. -/
def relativeTo (base path : String) : String :=
  ofComponents (stepsBetween (cleanComponents base) (cleanComponents path))

end BundleHost.Path
