import BundleHost.Message.Basic
import BundleHost.Json.Reader
import BundleHost.Json.Printer

/-!
# Messages as JSON

A request comes as a JSON text and its reply goes as one. A text that is no request gets a failure
as its reply. Its form is checked as soon as it is met, so that of several faults in a broken text
a wrong form can come before the place where the text breaks.
-/

namespace BundleHost

namespace Request

/-- Reads the form of a request, and what follows it. -/
def scanForm (text : List Char) : Except DecodeError (String × List Char) :=
  match Json.skipBlanks text with
  | '"' :: rest =>
    match Json.readString rest with
    | none => .error .malformed
    | some (name, rest) =>
      let name := String.ofList name
      match Form.ofName? name with
      | some _ => .ok (name, rest)
      | none => .error .unknownVariant
  | '[' :: _ => .error .invalidType
  | '\x7b' :: _ => .error .invalidType
  | text =>
    match Json.readScalar text with
    | some _ => .error .invalidType
    | none => .error .malformed

/-- Reads a value that does not tell the form. -/
def scanValue (text : List Char) : Except DecodeError (Document × List Char) :=
  match Json.readValue (2 * text.length + 2) (Json.depthLimit - 1) text with
  | some found => .ok found
  | none => .error .malformed

/-- Reads the value of a key, the text beginning with a colon. -/
def scanMember (key : String) (text : List Char) : Except DecodeError (Document × List Char) :=
  match Json.skipBlanks text with
  | ':' :: rest =>
    if key = formKey then (scanForm rest).map fun (name, rest) => (.text name, rest)
    else scanValue rest
  | _ => .error .malformed

/-- Reads the entries of a table from the first one up to the closing brace. -/
def scanMembers : Nat → List (String × Document) → List Char →
    Except DecodeError (List (String × Document))
  | 0, _, _ => .error .malformed
  | fuel + 1, found, text =>
    match Json.skipBlanks text with
    | '"' :: rest =>
      match Json.readString rest with
      | none => .error .malformed
      | some (key, rest) =>
        let key := String.ofList key
        if key = formKey && found.any (·.1 = formKey) then .error .duplicateField
        else
          match scanMember key rest with
          | .error error => .error error
          | .ok (value, rest) =>
            let found := (key, value) :: found
            match Json.skipBlanks rest with
            | '\x7d' :: _ => .ok found.reverse
            | ',' :: rest => scanMembers fuel found rest
            | _ => .error .malformed
    | _ => .error .malformed

/-- Reads a document that begins well, if it does, and checks its form on the way. -/
def scan (text : List Char) : Except DecodeError Document :=
  match Json.skipBlanks text with
  | '\x7b' :: rest =>
    match Json.skipBlanks rest with
    | '\x7d' :: _ => .ok (.table [])
    | rest => (scanMembers rest.length [] rest).map .table
  | '[' :: rest =>
    match Json.skipBlanks rest with
    | ']' :: _ => .ok (.list [])
    | rest =>
      match scanForm rest with
      | .error error => .error error
      | .ok (name, rest) =>
        match Json.skipBlanks rest with
        | ']' :: _ => .ok (.list [.text name])
        | ',' :: rest =>
          match Json.readItems (2 * rest.length + 2) (Json.depthLimit - 1) rest with
          | some (items, _) => .ok (.list (.text name :: items))
          | none => .error .malformed
        | _ => .error .malformed
  | text =>
    match Json.readScalar text with
    | some _ => .error .invalidType
    | none => .error .malformed

/-- What is wrong with a text that is no JSON. -/
def faultOf (text : String) : DecodeError :=
  match scan text.toList with
  | .error error => error
  | .ok document =>
    match decode document with
    | .error error => error
    | .ok _ => .malformed

/-- The request that a JSON text writes. -/
def ofJson (text : String) : Except DecodeError Request :=
  match Json.parse? text with
  | some document => decode document
  | none => .error (faultOf text)

/-- The JSON text of a request. -/
def toJson (request : Request) : String := Json.print request.encode

end Request

namespace Reply

/-- The reply that a JSON text writes. -/
def ofJson? (text : String) : Option Reply := do (decode (← Json.parse? text)).toOption

/-- The JSON text of a reply. -/
def toJson (reply : Reply) : String := Json.print reply.encode

end Reply

namespace Dispatch

variable [RegexEngine] {m : Type → Type} [Monad m]

/-- Answers a JSON text with a JSON text. -/
def handleJson (plugins : List (Plugin m)) (text : String) : m String :=
  match Request.ofJson text with
  | .ok request => do return (← handle plugins request).toJson
  | .error error => pure (Reply.failed (.malformedRequest error.message)).toJson

end Dispatch

end BundleHost
