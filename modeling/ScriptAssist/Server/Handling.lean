import ScriptAssist.Server.Basic
import ScriptAssist.Server.Method

/-!
# Handling of messages

A message is handled by what its method names. Every request has exactly one response, which
carries its number; nothing else has any.
-/

namespace ScriptAssist.Server

open Json Rpc

/-- Does what a request asks for. Parameters that are absent are an object without members. -/
def answer (s : Server) (r : Request) : Except Refusal (Server × Value) :=
  let params := r.params?.getD (.object [])
  match RequestMethod.ofName? r.method with
  | some .start => s.start params
  | some .shutdown => s.shutdown
  | some .completion => (s.completion params).map fun result => (s, result)
  | some .executeCommand => s.executeCommand params
  | none => .error (.unknownMethod r.method)

/-- The new server, or the old one and the refusal. -/
def settle (s : Server) : Except Refusal Server → Server × Except Refusal Unit
  | .ok s => (s, .ok ())
  | .error refusal => (s, .error refusal)

/-- Takes note of a notification. Those of unknown methods change nothing. -/
def note (s : Server) (n : Notification) : Server × Except Refusal Unit :=
  let params := n.params?.getD (.object [])
  match NotificationMethod.ofName? n.method with
  | some .initialized => s.settle s.initialized
  | some .didOpen => s.settle (s.didOpen params)
  | some .didChange => s.settle (s.didChange params)
  | some .didClose => s.settle (s.didClose params)
  | some .exit => s.exit
  | none => (s, .ok ())

/-- Handles a message. -/
def handle (s : Server) : Message → Server × Option Message
  | .request r =>
    match s.answer r with
    | .ok (s, result) => (s, some (.response (.success r.id result)))
    | .error refusal => (s, some (.response (.failure r.id refusal.fault)))
  | .notification n => ((s.note n).1, none)
  | .response _ => (s, none)

end ScriptAssist.Server
