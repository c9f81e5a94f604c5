import ScriptAssist.Rpc.Fault

/-!
# Refusals

The server refuses what comes at the wrong time, what lacks something, and what it does not know.
-/

namespace ScriptAssist

open Rpc

/-- Why the server refuses to do what it is asked for. -/
inductive Refusal where
  /-- The server has been initialized before. -/
  | notInitializing
  /-- A client says that it is ready, but has not asked for initialization. -/
  | initializedTooEarly
  /-- The server is not ready yet, or is no longer. -/
  | notInitialized
  /-- A client ends the session without having announced it. -/
  | exitBeforeShutdown
  /-- A parameter is missing, or is not of the right type. -/
  | missing (name : String)
  | unknownDocument (uri : String)
  | noEngine
  | unknownCommand (command : String)
  | unknownMethod (method : String)
  deriving DecidableEq, Repr

/-- What is reported of a refusal. -/
def Refusal.fault : Refusal → Fault
  | notInitializing => ⟨.invalidRequest, "Server is not in initializing state"⟩
  | initializedTooEarly => ⟨.invalidRequest, "Initialized received before initialize"⟩
  | notInitialized => ⟨.invalidRequest, "Server is not initialized"⟩
  | exitBeforeShutdown => ⟨.invalidRequest, "Exit received before shutdown"⟩
  | missing name => ⟨.invalidParams, s!"Missing {name}"⟩
  | unknownDocument uri => ⟨.invalidParams, s!"Document not found: {uri}"⟩
  | noEngine => ⟨.internal, "No completion engine registered"⟩
  | unknownCommand command => ⟨.invalidParams, s!"Unknown command: {command}"⟩
  | unknownMethod method => ⟨.methodNotFound, method⟩

end ScriptAssist
