import BundleHost.Path
import BundleHost.Text.Utf8

/-!
# Disks

A disk is a finite set of files and directories under one root. Paths are followed the way a file
system does it: every piece but the last has to name a directory, and a path that ends in a slash
has to name one too. Relative paths start at the root.
-/

namespace BundleHost

/-- What a path of a disk leads to. -/
inductive DiskNode where
  | file (bytes : List UInt8)
  | directory
  deriving DecidableEq, Repr

/-- Why a path could not be followed or a file not be read. -/
inductive DiskFault where
  | notFound
  | notDirectory
  | isDirectory
  | invalidName
  | invalidText
  deriving DecidableEq, Repr

def DiskFault.message : DiskFault → String
  | .notFound => "No such file or directory (os error 2)"
  | .notDirectory => "Not a directory (os error 20)"
  | .isDirectory => "Is a directory (os error 21)"
  | .invalidName => "file name contained an unexpected NUL byte"
  | .invalidText => "stream did not contain valid UTF-8"

/-- Files and directories by the names that lead to them from the root. -/
structure Disk where
  entries : List (List String × DiskNode)

namespace Disk

def empty : Disk := ⟨[]⟩

/-- What the names lead to; the directories above an entry exist with it. -/
def node? (disk : Disk) (names : List String) : Option DiskNode :=
  match disk.entries.find? (·.1 = names) with
  | some (_, node) => some node
  | none =>
    if names.isEmpty || disk.entries.any (names.isPrefixOf ·.1) then some .directory else none

/-- Follows pieces of a path from the place that `place` names in reverse order. -/
def follow (disk : Disk) (place : List String) : List (List Char) → Except DiskFault DiskNode
  | [] =>
    match disk.node? place.reverse with
    | some node => .ok node
    | none => .error .notFound
  | piece :: rest =>
    match disk.node? place.reverse with
    | none => .error .notFound
    | some (.file _) => .error .notDirectory
    | some .directory =>
      if Path.isIdle piece then disk.follow place rest
      else if piece = ['.', '.'] then disk.follow place.tail rest
      else disk.follow (String.ofList piece :: place) rest

/-- What a path leads to. -/
def lookup (disk : Disk) (path : String) : Except DiskFault DiskNode :=
  if path.isEmpty then .error .notFound
  else if path.toList.contains '\x00' then .error .invalidName
  else disk.follow [] (Path.pieces path)

def pathExists (disk : Disk) (path : String) : Bool := (disk.lookup path).toOption.isSome

def isFile (disk : Disk) (path : String) : Bool :=
  match disk.lookup path with
  | .ok (.file _) => true
  | _ => false

/-- The text of a file. -/
def readText (disk : Disk) (path : String) : Except DiskFault String :=
  match disk.lookup path with
  | .error fault => .error fault
  | .ok .directory => .error .isDirectory
  | .ok (.file bytes) =>
    match Text.Utf8.decode? bytes with
    | some text => .ok text
    | none => .error .invalidText

end Disk

end BundleHost
