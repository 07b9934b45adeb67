import BundleHost.Proofs.Invocation.Watching
import BundleHost.Proofs.Message.RoundTrip
import BundleHost.Regex.Engine

/-!
# Exchanging messages as JSON

Plugins that are driven by JSON texts do what they do when they are asked directly: the same calls
happen, and the reply that comes as a text is the one that would have been given. A text that is no
request is answered as well, without any call.

## Main statements

* `exchange_faithful` — nothing is lost on the way there or back, and every text is answered.
-/

namespace BundleHost

open Dispatch

section AnyEngine

variable [RegexEngine] {World : Type}

/-- What comes of a text, from the world `w` on: what comes of the request that it writes, or else
a failure that tells why it writes none, with no call and no change. -/
def Settles (plugins : List (Plugin (StateM World))) (text : String) (w : World)
    (events : List Event) (reply : Reply) (w' : World) : Prop :=
  match Request.ofJson text with
  | .ok request => Runs (handle (watchFrom 0 plugins) request) w events reply w'
  | .error error =>
    events = [] ∧ w' = w ∧ reply = .failed (.malformedRequest error.message)

/-- Messages pass between the plugins and who drives them by JSON texts as they are. -/
structure Faithful (plugins : List (Plugin (StateM World))) : Prop where
  request_read : ∀ request : Request, request.IsCounted →
    Request.ofJson request.toJson = .ok request
  reply_read : ∀ reply : Reply, Reply.ofJson? reply.toJson = some reply
  /-- Asking by a text has the calls of asking directly, and the text of its reply. -/
  same : ∀ request : Request, request.IsCounted → ∀ w events reply w',
    Runs (handle (watchFrom 0 plugins) request) w events reply w' →
      Runs (handleJson (watchFrom 0 plugins) request.toJson) w events reply.toJson w'
  /-- Every text is answered by the text of a reply. -/
  answered : ∀ text w, ∃ events reply w',
    Runs (handleJson (watchFrom 0 plugins) text) w events reply.toJson w' ∧
      Settles plugins text w events reply w'

theorem runs_handleJson_of_ok {plugins : List (Plugin (Watched World))} {text : String}
    {request : Request} (read : Request.ofJson text = .ok request) {w w' : World}
    {events : List Event} {reply : Reply} (h : Runs (handle plugins request) w events reply w') :
    Runs (handleJson plugins text) w events reply.toJson w' := by
  have answer : Runs (handle plugins request >>= fun reply => pure reply.toJson) w (events ++ [])
      reply.toJson w' := h.bind (.pure _ w')
  rw [List.append_nil] at answer
  rw [handleJson, read]
  exact answer

theorem runs_handleJson_of_error {plugins : List (Plugin (Watched World))} {text : String}
    {error : DecodeError} (unread : Request.ofJson text = .error error) (w : World) :
    Runs (handleJson plugins text) w []
      (Reply.failed (.malformedRequest error.message)).toJson w := by
  rw [handleJson, unread]
  exact .pure _ w

theorem exists_runs_handleJson (plugins : List (Plugin (StateM World))) (text : String)
    (w : World) : ∃ events reply w',
      Runs (handleJson (watchFrom 0 plugins) text) w events reply.toJson w' ∧
        Settles plugins text w events reply w' := by
  unfold Settles
  cases read : Request.ofJson text with
  | ok request =>
    obtain ⟨events, reply, w', runs⟩ := exists_runs (handle (watchFrom 0 plugins) request) w
    exact ⟨events, reply, w', runs_handleJson_of_ok read runs, runs⟩
  | error error => exact ⟨[], _, w, runs_handleJson_of_error read w, rfl, rfl, rfl⟩

theorem exchange_faithful (plugins : List (Plugin (StateM World))) : Faithful plugins where
  request_read _ counted := Request.ofJson_toJson counted
  reply_read := Reply.ofJson?_toJson
  same _ counted _ _ _ _ runs := runs_handleJson_of_ok (Request.ofJson_toJson counted) runs
  answered := exists_runs_handleJson plugins

end AnyEngine

/-- The largest count there is, reported to no plugins. -/
theorem exchange_of_largest_count :
    let request := Request.finish ⟨false, UInt64.size - 1⟩
    request.IsCounted ∧ Request.ofJson request.toJson = .ok request ∧
      Runs (handleJson (watchFrom 0 ([] : List (Plugin (StateM Unit)))) request.toJson) () []
        Reply.ended.toJson () := by
  have counted : (Request.finish ⟨false, UInt64.size - 1⟩).IsCounted := by
    change UInt64.size - 1 < UInt64.size
    decide
  have faithful := exchange_faithful ([] : List (Plugin (StateM Unit)))
  exact ⟨counted, faithful.request_read _ counted, faithful.same _ counted () [] .ended () rfl⟩

end BundleHost
