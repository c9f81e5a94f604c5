import ScriptAssist.Rpc.Sink
import ScriptAssist.Server.Handling

/-!
# Runs

A server runs on a stream of bytes: it reads message after message and writes what each of them
brings about. Frames that hold no message are answered with an error that has no number. The run
stops at the end of the stream, when the client ends the session, and when the stream can be
neither read nor written.
-/

namespace ScriptAssist

open Rpc

/-- Why a run was broken off. -/
inductive RunFault where
  | read (fault : StreamFault)
  | write (fault : WriteFault)
  deriving DecidableEq, Repr

/-- What is reported of the fault. -/
def RunFault.fault : RunFault → Fault
  | read fault => fault.fault
  | write fault => fault.fault

/-- What follows from one reading of the stream. -/
inductive Turn where
  /-- Nothing more can be read. -/
  | stop (result : Except RunFault Unit)
  /-- A reply is to be sent, if there is one. Once it has been sent the server lets go of the
  messages that wait, and these are sent, too. -/
  | send (server : Server) (reply? : Option Message) (next : Server × List Message)

/-- What a run leaves behind. -/
structure Run where
  server : Server
  sink : Sink
  /-- What has not been read. -/
  unread : List UInt8
  result : Except RunFault Unit

namespace Server

/-- What follows from a reading. Nothing that waits is sent behind a frame without a message. -/
def turn (s : Server) : Except ReadFault (Option Message) → Turn
  | .ok none => .stop (.ok ())
  | .ok (some m) =>
    let (s, reply?) := s.handle m
    .send s reply? s.drain
  | .error (.stream fault) => .stop (.error (.read fault))
  | .error fault => .send s (some (.response (.failure .null fault.fault))) (s, [])

/-- Runs for a number of turns at most. -/
def runFor : (turns : Nat) → Server → Sink → List UInt8 → Run
  | 0, s, sink, stream => ⟨s, sink, stream, .ok ()⟩
  | turns + 1, s, sink, stream =>
    let (reading, rest) := readMessage stream
    match s.turn reading with
    | .stop result => ⟨s, sink, rest, result⟩
    | .send s reply? (next, waiting) =>
      match sink.send reply?.toList with
      | (sink, .error fault) => ⟨s, sink, rest, .error (.write fault)⟩
      | (sink, .ok ()) =>
        match sink.send waiting with
        | (sink, .error fault) => ⟨next, sink, rest, .error (.write fault)⟩
        | (sink, .ok ()) =>
          if next.phase = .shutDown then ⟨next, sink, rest, .ok ()⟩
          else runFor turns next sink rest

/-- Runs on a stream. Each turn takes a byte at least, but for the last one. -/
def run (s : Server) (sink : Sink) (stream : List UInt8) : Run :=
  runFor (stream.length + 1) s sink stream

end Server

end ScriptAssist
