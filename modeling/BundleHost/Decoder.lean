import BundleHost.Document

/-!
# Decoding documents

A decoder reads a document as a value of a type, or tells why it cannot. Records are read from a
table, where unknown keys do not count, or from the list of their fields in the order of their
declaration. Of several faults the first in the order of the document is reported, and missing
fields come last.
-/

namespace BundleHost

inductive DecodeError where
  /-- A name that its enumeration does not have. -/
  | unknownName (kind value expected : String)
  | missingField (name : String)
  | invalidType
  /-- A number out of range. -/
  | invalidValue
  | invalidLength
  | unknownVariant
  | duplicateField
  /-- No alternative of a choice by shape fits. -/
  | noAlternative
  /-- The text is no document at all. -/
  | malformed
  deriving DecidableEq, Repr

def DecodeError.message : DecodeError → String
  | .unknownName kind value expected =>
    "unknown " ++ kind ++ " '" ++ value ++ "' (expected one of: " ++ expected ++ ")"
  | .missingField name => "missing field `" ++ name ++ "`"
  | .invalidType => "invalid type"
  | .invalidValue => "invalid value"
  | .invalidLength => "invalid length"
  | .unknownVariant => "unknown variant"
  | .duplicateField => "duplicate field"
  | .noAlternative => "data did not match"
  | .malformed => "syntax"

namespace DecodeError

/-- The messages that need no details. -/
def classes : List String :=
  [invalidType, invalidValue, invalidLength, unknownVariant, duplicateField, noAlternative].map
    message

/-- What is kept of a message about a document: its class alone, or all of it where it names a
field or the names of an enumeration. -/
def classOf (text : String) : String :=
  match classes.find? fun mark => mark.toList.isPrefixOf text.toList with
  | some mark => mark
  | none =>
    if ["missing field ", "unknown "].any fun mark => mark.toList.isPrefixOf text.toList then text
    else malformed.message

end DecodeError

abbrev Decoder (α : Type) := Document → Except DecodeError α

namespace Decoder

variable {α β : Type}

def text : Decoder String
  | .text s => .ok s
  | _ => .error .invalidType

def bool : Decoder Bool
  | .bool b => .ok b
  | _ => .error .invalidType

/-- A natural number below a bound. -/
def natBelow (bound : Nat) : Decoder Nat
  | .int n => if 0 ≤ n ∧ n < bound then .ok n.toNat else .error .invalidValue
  | _ => .error .invalidType

def optional (decode : Decoder α) : Decoder (Option α)
  | .null => .ok none
  | document => (decode document).map some

def items (decode : Decoder α) : List Document → Except DecodeError (List α)
  | [] => .ok []
  | item :: rest => do
    let value ← decode item
    let values ← items decode rest
    .ok (value :: values)

def list (decode : Decoder α) : Decoder (List α)
  | .list documents => items decode documents
  | _ => .error .invalidType

def entries (decode : Decoder α) :
    List (String × Document) → Except DecodeError (List (String × α))
  | [] => .ok []
  | (key, document) :: rest => do
    let value ← decode document
    let values ← entries decode rest
    .ok ((key, value) :: values)

/-- A table whose values are all of one type; a repeated key keeps its first place and its last
value. -/
def map (decode : Decoder α) : Decoder (OrderedMap α)
  | .table documents => (entries decode documents).map OrderedMap.ofEntries
  | _ => .error .invalidType

/-- What a unit without content is written as; inside tagged documents an empty table counts too. -/
def isUnit (tagged : Bool) : Document → Bool
  | .null => true
  | .table [] => tagged
  | _ => false

/-- One of several names, or a table with that name as its only key and no content. -/
def variant (tagged : Bool) (ofName? : String → Option α) : Decoder α
  | .text name =>
    match ofName? name with
    | some value => .ok value
    | none => .error .unknownVariant
  | .table [(name, content)] =>
    match ofName? name with
    | some value => if isUnit tagged content then .ok value else .error .invalidType
    | none => .error .unknownVariant
  | .table _ => .error .invalidValue
  | _ => .error .invalidType

/-! ## Records -/

/-- When a field of a record may be left out. -/
inductive Presence where
  | required
  /-- Left out of a table only. -/
  | nullable
  /-- Left out of a table, or at the end of a list. -/
  | defaulted
  deriving DecidableEq, Repr

/-- A field of a record: its name, when it may be left out, and what its document must satisfy. -/
structure Field where
  name : String
  presence : Presence
  check : Document → Except DecodeError Unit

/-- A field that a decoder reads. -/
def field (name : String) (presence : Presence) (decode : Decoder α) : Field :=
  ⟨name, presence, fun document => (decode document).map fun _ => ()⟩

/-- Checks the entries of a table in their order, collecting those that are fields. -/
def collect (fields : List Field) (found : List (String × Document)) :
    List (String × Document) → Except DecodeError (List (String × Document))
  | [] => .ok found
  | (key, document) :: rest =>
    match fields.find? (·.name = key) with
    | none => collect fields found rest
    | some field =>
      if found.any (·.1 = key) then .error .duplicateField
      else
        match field.check document with
        | .error error => .error error
        | .ok () => collect fields ((key, document) :: found) rest

/-- Pairs fields with the items of a list in order. -/
def align : List Field → List Document → Except DecodeError (List (String × Document))
  | [], [] => .ok []
  | [], _ :: _ => .error .invalidLength
  | field :: fields, [] =>
    if field.presence = .defaulted then align fields [] else .error .invalidLength
  | field :: fields, document :: documents =>
    match field.check document with
    | .error error => .error error
    | .ok () =>
      match align fields documents with
      | .error error => .error error
      | .ok found => .ok ((field.name, document) :: found)

/-- The documents of a record's fields by name, all of them checked. -/
def record (fields : List Field) : Decoder (List (String × Document))
  | .table entries =>
    match collect fields [] entries with
    | .error error => .error error
    | .ok found =>
      match fields.find? fun field =>
          field.presence = .required && !found.any (·.1 = field.name) with
      | some field => .error (.missingField field.name)
      | none => .ok found
  | .list items => align fields items
  | _ => .error .invalidType

/-- The value of a field, or `absent` where it was left out. -/
def get (found : List (String × Document)) (name : String) (decode : Decoder α) (absent : α) :
    Except DecodeError α :=
  match Entries.lookup? name found with
  | some document => decode document
  | none => .ok absent

/-- The content of a record without fields: a table, or an empty list. -/
def unit : Document → Except DecodeError Unit
  | .table _ => .ok ()
  | .list [] => .ok ()
  | .list _ => .error .invalidLength
  | _ => .error .invalidType

/-! ## Tagged documents -/

/-- Takes the tag out of a table's entries. -/
def splitTag {τ : Type} (name : String) (readTag : Decoder τ) (tag : Option τ)
    (content : List (String × Document)) :
    List (String × Document) → Except DecodeError (τ × List (String × Document))
  | [] =>
    match tag with
    | some tag => .ok (tag, content.reverse)
    | none => .error (.missingField name)
  | (key, document) :: rest =>
    if key = name then
      if tag.isSome then .error .duplicateField
      else do splitTag name readTag (some (← readTag document)) content rest
    else splitTag name readTag tag ((key, document) :: content) rest

/-- A record whose form is told by a tag: an entry of its table, or the first item of its list. -/
def tagged {τ : Type} (name : String) (readTag : Decoder τ) (read : τ → Decoder α) : Decoder α
  | .table entries => do
    let (tag, content) ← splitTag name readTag none [] entries
    read tag (.table content)
  | .list [] => .error (.missingField name)
  | .list (first :: rest) => do read (← readTag first) (.list rest)
  | _ => .error .invalidType

/-- A tag that is one of several names. -/
def tag {τ : Type} (ofName? : String → Option τ) : Decoder τ
  | .text name =>
    match ofName? name with
    | some tag => .ok tag
    | none => .error .unknownVariant
  | _ => .error .invalidType

end Decoder

end BundleHost
