import ScriptAssist.Program

/-!
# The program

The outer layer: it reads bytes as they come in, hands them to the library, and writes what that
gives back at once, so that a client can wait for an answer before it sends the next message. All
decisions are the library's.
-/

namespace ScriptAssist.Main

open Rpc

/-- Reads the bytes of a line, with the line feed if there is one. `line` holds those behind,
last one first. -/
partial def readLine (input : IO.FS.Stream) (line : List UInt8) : IO (List UInt8) := do
  match (← input.read 1).data[0]? with
  | none => return line.reverse
  | some byte =>
    if byte = lineFeed then return (byte :: line).reverse else readLine input (byte :: line)

/-- Reads a header block, of which `block` is known. -/
partial def readHeaders (input : IO.FS.Stream) (block : Block) :
    IO (Except ReadFault (Option Nat)) := do
  let line ← readLine input []
  if line.isEmpty then return block.atEnd
  match block.addLine line with
  | .more block => readHeaders input block
  | .body length => return .ok (some length)
  | .fault fault => return .error fault

/-- Reads a number of bytes behind those in `body`, or fewer if the stream ends. -/
partial def readBody (input : IO.FS.Stream) (length : Nat) (body : ByteArray) : IO ByteArray := do
  if length ≤ body.size then return body
  let chunk ← input.read (length - body.size).toUSize
  if chunk.isEmpty then return body else readBody input length (body ++ chunk)

/-- Reads the next message. -/
def readNext (input : IO.FS.Stream) : IO (Except ReadFault (Option Message)) := do
  match ← readHeaders input {} with
  | .error fault => return .error fault
  | .ok none => return .ok none
  | .ok (some length) =>
    let body ← readBody input length .empty
    if body.size < length then return .error (.stream .endInBody)
    return (Message.ofBody body.data.toList).map some

/-- Sends messages. -/
def send (output : IO.FS.Stream) (messages : List Message) : IO Unit := do
  for m in messages do
    output.write ⟨m.frame.toArray⟩
    output.flush

/-- Runs the server until it stops. If a message cannot be sent, nothing depends on the server any
more. -/
partial def serve (input output : IO.FS.Stream) (s : Server) : IO Program.Outcome := do
  match s.turn (← readNext input) with
  | .stop (.ok ()) => return .ofRun s none
  | .stop (.error fault) => return .ofRun s (some fault.fault.message)
  | .send s reply? (next, waiting) =>
    try
      send output reply?.toList
      send output waiting
    catch e => return .ofRun s (some (Fault.message ⟨.io, s!"Failed to write message: {e}"⟩))
    if next.phase = .shutDown then return .ofRun next none else serve input output next

/-- Reads a file as text. -/
def readText (path : String) : IO (Except FileFault String) := do
  try
    let bytes ← IO.FS.readBinFile path
    return (Utf8.decode bytes.data.toList).mapError fun _ => .notText
  catch e => return .error (.other (toString e))

end ScriptAssist.Main

open ScriptAssist in
/-- The entry point. -/
def main (args : List String) : IO UInt32 := do
  let input ← IO.getStdin
  let output ← IO.getStdout
  let serve (settings : Settings) := Main.serve input output { settings }
  let outcome ← Program.runWith Main.readText serve args
  output.write ⟨outcome.output.toArray⟩
  output.flush
  unless outcome.complaint.isEmpty do IO.eprintln outcome.complaint
  return outcome.exitCode.toUInt32
