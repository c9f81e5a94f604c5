import ScriptAssist.Rpc.Frame

/-!
# Sinks

A sink takes bytes until it is full. A message that does not fit is written as far as there is
room, and the write fails.
-/

namespace ScriptAssist.Rpc

/-- The bytes written so far, and how many more there is room for; none stands for any number. -/
structure Sink where
  written : List UInt8 := []
  room? : Option Nat := none
  deriving DecidableEq, Repr

/-- A write that failed. -/
structure WriteFault where
  deriving DecidableEq, Repr

/-- What is reported of a write that failed. -/
def WriteFault.fault (_ : WriteFault) : Fault :=
  ⟨.io, "Failed to write message: write zero"⟩

namespace Sink

/-- Writes bytes, as many as there is room for. -/
def write (sink : Sink) (bytes : List UInt8) : Sink × Except WriteFault Unit :=
  match sink.room? with
  | none => ({ sink with written := sink.written ++ bytes }, .ok ())
  | some room =>
    (⟨sink.written ++ bytes.take room, some (room - bytes.length)⟩,
      if bytes.length ≤ room then .ok () else .error {})

/-- Writes messages one after another, until a write fails. -/
def send (sink : Sink) : List Message → Sink × Except WriteFault Unit
  | [] => (sink, .ok ())
  | m :: rest =>
    match sink.write m.frame with
    | (sink, .ok ()) => sink.send rest
    | (sink, .error fault) => (sink, .error fault)

end Sink

end ScriptAssist.Rpc
