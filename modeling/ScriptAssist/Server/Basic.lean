import ScriptAssist.Completion.Json
import ScriptAssist.Rpc.Message
import ScriptAssist.Server.Documents
import ScriptAssist.Server.Notice
import ScriptAssist.Server.Params
import ScriptAssist.Settings.Basic

/-!
# Server

A server goes through four phases: it waits to be initialized, serves, waits for the end, and has
ended. It holds the open documents, the engine that answers queries, and the messages that it
wants to send to the client apart from answers. Every request is a function from a server to a
refusal, or to a new server and a result; so a refused request leaves everything as it was.
-/

namespace ScriptAssist

open Json Rpc

/-- The phases of a server's life. -/
inductive Phase where
  /-- Waits for the client to initialize it. -/
  | initializing
  /-- Serves. -/
  | initialized
  /-- Has been told that the end is near. -/
  | shuttingDown
  /-- Has ended. -/
  | shutDown
  deriving DecidableEq, Repr

/-- The name under which a phase is written. -/
def Phase.name : Phase → String
  | initializing => "Initializing"
  | initialized => "Initialized"
  | shuttingDown => "ShuttingDown"
  | shutDown => "ShutDown"

/-- The state of a server. -/
structure Server where
  settings : Settings
  phase : Phase := .initializing
  /-- What the client said when it initialized the server. -/
  client? : Option ClientCapabilities := none
  /-- Answers queries, once there is one. -/
  engine? : Option Engine := none
  documents : Documents := {}
  /-- Messages that wait to be sent, first one first. -/
  outbox : List Message := []
  /-- The number of the next request to the client. -/
  nextId : Int64 := 1
  /-- Whether the end had been announced when it came. -/
  exitedCleanly : Bool := false

namespace Server

/-- The name that the server gives itself. -/
def programName : String :=
  "frappe-lsp"

/-- The version of the program. -/
def programVersion : String :=
  "0.1.0"

/-- What every server can do. -/
def capabilities : ServerCapabilities := {}

/-- Fails unless the server serves. -/
def requireInitialized (s : Server) : Except Refusal Unit :=
  if s.phase = .initialized then .ok () else .error .notInitialized

/-- Gives the server an engine of the caller's choice. -/
def useEngine (s : Server) (e : Engine) : Server :=
  { s with engine? := some e }

/-- Gives the server an assistant of the caller's choice. -/
def useAssistant (s : Server) (a : Assistant) : Server :=
  s.useEngine (.ofAssistant a)

/-- Puts a document in, or replaces its text. -/
def setDocument (s : Server) (uri text : String) : Server :=
  { s with documents := s.documents.set uri text }

/-- Takes a document out. -/
def removeDocument (s : Server) (uri : String) : Server :=
  { s with documents := s.documents.remove uri }

/-- Takes the messages that wait to be sent. -/
def drain (s : Server) : Server × List Message :=
  ({ s with outbox := [] }, s.outbox)

/-- Lets a notification wait to be sent. -/
def notify (s : Server) (method : String) (params : Value) : Server :=
  { s with outbox := s.outbox ++ [.notification { method, params? := some params }] }

/-- Lets a request to the client wait to be sent, under the next number. -/
def ask (s : Server) (action : ClientAction) : Server :=
  let r : Request :=
    { id := .int s.nextId.toInt, method := action.method, params? := some action.params }
  { s with outbox := s.outbox ++ [.request r], nextId := s.nextId + 1 }

/-! ## Requests -/

/-- The assistant for a client: it shows snippets only if the client understands them. -/
def assistantFor (settings : Settings) (client : ClientCapabilities) : Assistant :=
  .ofSettings { settings with snippets := settings.snippets && client.snippets }

/-- What a client is told when it has initialized the server. -/
def introduction : Value :=
  .ofMembers [("capabilities", capabilities.toValue),
    ("serverInfo", .ofMembers [("name", .text programName), ("version", .text programVersion)])]

/-- Initializes the server, once. -/
def start (s : Server) (params : Value) : Except Refusal (Server × Value) :=
  if s.phase = .initializing ∧ s.client?.isNone then
    let client : ClientCapabilities := ⟨(params.get? "capabilities").getD (.object [])⟩
    let engine := s.engine?.getD (.ofAssistant (assistantFor s.settings client))
    .ok ({ s with client? := some client, engine? := some engine }, introduction)
  else .error .notInitializing

/-- Announces the end. -/
def shutdown (s : Server) : Except Refusal (Server × Value) := do
  s.requireInitialized
  return ({ s with phase := .shuttingDown }, .null)

end Server

/-- The answer to a query at a position of a text, as editors expect it. -/
def Engine.answerAt (e : Engine) (text : String) (position : Position) (trigger : Trigger) :
    Value :=
  let s := text.toList
  let items := e.complete s (Text.offsetAt s position) trigger
  .ofMembers [("isIncomplete", .bool false), ("items", .array (items.map Item.toEditorValue))]

/-- The answer of an assistant. -/
def Assistant.answerAt (a : Assistant) (text : String) (position : Position)
    (trigger : Trigger) : Value :=
  (Engine.ofAssistant a).answerAt text position trigger

namespace Server

/-- Answers a query about an open document. -/
def completion (s : Server) (params : Value) : Except Refusal Value := do
  s.requireInitialized
  let uri ← Params.uri params
  let position ← Params.position params
  match s.documents.get? uri, s.engine? with
  | none, _ => .error (.unknownDocument uri)
  | some _, none => .error .noEngine
  | some text, some engine => return engine.answerAt text position (Params.trigger params)

/-- Carries out a command. -/
def executeCommand (s : Server) (params : Value) : Except Refusal (Server × Value) := do
  s.requireInitialized
  let command ← Params.command params
  let action ← ClientAction.ofCommand command s.settings.documentationUrl
  return (s.ask action, .null)

/-! ## Notifications -/

/-- Begins to serve. -/
def initialized (s : Server) : Except Refusal Server :=
  if s.phase ≠ .initializing then .error .notInitializing
  else if s.client?.isNone then .error .initializedTooEarly
  else
    let s := { s with phase := .initialized }
    .ok (if s.settings.showWelcome then s.notify showMessageMethod welcomeParams else s)

/-- Opens a document. -/
def didOpen (s : Server) (params : Value) : Except Refusal Server := do
  s.requireInitialized
  let uri ← Params.uri params
  let text ← Params.openedText params
  return s.setDocument uri text

/-- Replaces the text of a document. -/
def didChange (s : Server) (params : Value) : Except Refusal Server := do
  s.requireInitialized
  let uri ← Params.uri params
  match ← Params.changedText params with
  | some text => return s.setDocument uri text
  | none => return s

/-- Closes a document. -/
def didClose (s : Server) (params : Value) : Except Refusal Server := do
  s.requireInitialized
  let uri ← Params.uri params
  return s.removeDocument uri

/-- Ends, whatever went before; the client hears nothing of it if that was too early. -/
def exit (s : Server) : Server × Except Refusal Unit :=
  let clean : Bool := s.phase = .shuttingDown
  ({ s with phase := .shutDown, exitedCleanly := clean },
    if clean then .ok () else .error .exitBeforeShutdown)

end Server

end ScriptAssist
