import BundleHost.Decoder
import BundleHost.Text.Basic

/-!
# Enumerations

An enumeration is a closed set of members, each with a canonical name and a small number, its
code. Members are looked up by name or alias, without regard to the case of ASCII letters and to
white space around the name.
-/

namespace BundleHost

class Enumeration (α : Type) where
  /-- What the members are, for messages. -/
  kind : String
  members : List α
  name : α → String
  code : α → Nat
  /-- Further names, looked up before the canonical ones. -/
  aliases : List (String × α)
  default : α

namespace Enumeration

variable {α : Type} [Enumeration α]

/-- The form in which names are compared. -/
def key (name : String) : String := Text.lowerAscii (Text.trim name)

/-- The member with a name or alias that is already in the form of a key. -/
def ofKey? (key : String) : Option α :=
  ((aliases.find? (·.1 = key)).map (·.2)).or (members.find? (name · = key))

def ofName? (name : String) : Option α := ofKey? (key name)

def ofCode? (code : Int) : Option α := members.find? fun m => (Enumeration.code m : Int) = code

variable (α) in
/-- The canonical names, for messages. -/
def expected : String := String.intercalate ", " ((members : List α).map name)

/-- The member with a name, or the failure that tells the names there are. -/
def read (name : String) : Except DecodeError α :=
  match ofName? name with
  | some m => .ok m
  | none => .error (.unknownName (kind α) name (expected α))

def decode : Decoder α := fun document => do read (← Decoder.text document)

def encode (m : α) : Document := .text (name m)

end Enumeration

end BundleHost
