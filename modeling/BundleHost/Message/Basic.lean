import BundleHost.Dispatch
import BundleHost.Hook.Coding

/-!
# Messages

Requests and replies for driving the plugins from another process. Every request has one reply;
a failure is a reply too.
-/

namespace BundleHost

inductive Request where
  | start
  | resolve (request : ResolveRequest)
  | load (request : LoadRequest)
  | finish (report : EndReport)
  deriving DecidableEq, Repr

inductive Reply where
  | started
  | resolved (plugin : String) (answer : ResolveAnswer)
  | loaded (plugin : String) (answer : LoadAnswer)
  | unhandled
  | ended
  | failed (failure : HookFailure)
  deriving DecidableEq, Repr

namespace Request

/-- The forms of requests. -/
inductive Form where
  | start | resolve | load | finish
  deriving DecidableEq, Repr

namespace Form

def all : List Form := [.start, .resolve, .load, .finish]

def name : Form → String
  | .start => "start"
  | .resolve => "resolve"
  | .load => "load"
  | .finish => "end"

def ofName? (name : String) : Option Form := all.find? (·.name = name)

end Form

/-- The key under which a message has its form. -/
def formKey : String := "type"

/-- Reads what a request of a form holds. -/
def decodeContent (form : Form) : Decoder Request := fun document => do
  match form with
  | .start => .ok (← do Decoder.unit document; .ok .start)
  | .resolve => .ok (.resolve (← ResolveRequest.decode true document))
  | .load => .ok (.load (← LoadRequest.decode document))
  | .finish => .ok (.finish (← EndReport.decode document))

def decode : Decoder Request :=
  Decoder.tagged formKey (Decoder.tag Form.ofName?) decodeContent

def form : Request → Form
  | .start => .start
  | .resolve _ => .resolve
  | .load _ => .load
  | .finish _ => .finish

def encodeContent : Request → List (String × Document)
  | .start => []
  | .resolve request => request.encodeEntries
  | .load request => request.encodeEntries
  | .finish report => report.encodeEntries

def encode (request : Request) : Document :=
  .table ((formKey, .text request.form.name) :: request.encodeContent)

end Request

namespace Reply

/-- The forms of replies. -/
inductive Form where
  | started | resolved | loaded | unhandled | ended | failed
  deriving DecidableEq, Repr

namespace Form

def all : List Form := [.started, .resolved, .loaded, .unhandled, .ended, .failed]

def name : Form → String
  | .started => "started"
  | .resolved => "resolved"
  | .loaded => "loaded"
  | .unhandled => "unhandled"
  | .ended => "ended"
  | .failed => "failed"

def ofName? (name : String) : Option Form := all.find? (·.name = name)

end Form

/-- The fields of a reply in which a plugin gave an answer. -/
def answerFields {α : Type} (decode : Decoder α) : List Decoder.Field :=
  [Decoder.field "plugin" .required Decoder.text, Decoder.field "outcome" .required decode]

def decodeAnswer {α : Type} (decode : Decoder α) (absent : α) : Decoder (String × α) :=
  fun document => do
    let found ← Decoder.record (answerFields decode) document
    .ok (← Decoder.get found "plugin" Decoder.text "",
      ← Decoder.get found "outcome" decode absent)

/-- Reads what a reply of a form holds. -/
def decodeContent (form : Form) : Decoder Reply := fun document => do
  match form with
  | .started => .ok (← do Decoder.unit document; .ok .started)
  | .resolved =>
    let (plugin, answer) ← decodeAnswer ResolveAnswer.decode {} document
    .ok (.resolved plugin answer)
  | .loaded =>
    let (plugin, answer) ← decodeAnswer LoadAnswer.decode { contents := "" } document
    .ok (.loaded plugin answer)
  | .unhandled => .ok (← do Decoder.unit document; .ok .unhandled)
  | .ended => .ok (← do Decoder.unit document; .ok .ended)
  | .failed =>
    let found ← Decoder.record
      [Decoder.field "error" .required (HookFailure.decode true)] document
    .ok (.failed (← Decoder.get found "error" (HookFailure.decode true)
      (.malformedRequest "")))

def decode : Decoder Reply :=
  Decoder.tagged Request.formKey (Decoder.tag Form.ofName?) decodeContent

def form : Reply → Form
  | .started => .started
  | .resolved .. => .resolved
  | .loaded .. => .loaded
  | .unhandled => .unhandled
  | .ended => .ended
  | .failed _ => .failed

def encodeContent : Reply → List (String × Document)
  | .resolved plugin answer => [("plugin", .text plugin), ("outcome", answer.encode)]
  | .loaded plugin answer => [("plugin", .text plugin), ("outcome", answer.encode)]
  | .failed failure => [("error", failure.encode)]
  | _ => []

def encode (reply : Reply) : Document :=
  .table ((Request.formKey, .text reply.form.name) :: reply.encodeContent)

end Reply

namespace Dispatch

variable [RegexEngine] {m : Type → Type} [Monad m]

/-- The reply to a request. -/
def handle (plugins : List (Plugin m)) : Request → m Reply
  | .start => do
    return match ← start plugins with
      | .ok () => .started
      | .error failure => .failed failure
  | .resolve request => do
    return match ← resolve plugins request with
      | .ok (.handled plugin answer) => .resolved plugin answer
      | .ok .unhandled => .unhandled
      | .error failure => .failed failure
  | .load request => do
    return match ← load plugins request with
      | .ok (.handled plugin answer) => .loaded plugin answer
      | .ok .unhandled => .unhandled
      | .error failure => .failed failure
  | .finish report => do
    return match ← finish report plugins with
      | .ok () => .ended
      | .error failure => .failed failure

end Dispatch

end BundleHost
