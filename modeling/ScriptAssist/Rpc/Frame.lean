import ScriptAssist.Rpc.Message
import ScriptAssist.Text.Blank
import ScriptAssist.Text.Utf8
import ScriptAssist.Text.Word64

/-!
# Frames

On a byte stream each message is framed: a block of header lines, one of which gives the length
of the body in bytes, a blank line, and the body. Blank lines before the block are passed over.
`Frame.read` takes one frame off a stream, and `readMessage` reads the message in it; what they do
not take is left to the next call. `Frame.encode` writes a frame.
-/

namespace ScriptAssist.Rpc

/-- Why the headers of a frame are refused. -/
inductive HeaderFault where
  | badLength (fault : Word64.Fault)
  | tooLong (length : Nat)
  | noLength
  deriving DecidableEq, Repr

/-- Why a stream cannot be read any further. -/
inductive StreamFault where
  | headerNotText (fault : Utf8.Fault)
  | endInHeaders
  | endInBody
  deriving DecidableEq, Repr

/-- Why no message was read. -/
inductive ReadFault where
  | stream (fault : StreamFault)
  | header (fault : HeaderFault)
  | notText (fault : Utf8.Fault)
  | content (fault : ContentFault)
  deriving DecidableEq, Repr

namespace Frame

/-- The length of the longest body that is read. -/
def maxLength : Nat :=
  64 * 1024 * 1024

/-- The name of the header that gives the length. -/
def lengthKey : String :=
  "Content-Length"

end Frame

/-- What is reported of the fault. -/
def HeaderFault.fault : HeaderFault → Fault
  | badLength fault => ⟨.invalidRequest, s!"Invalid Content-Length: {fault.message}"⟩
  | tooLong length =>
    ⟨.invalidRequest, s!"Content-Length {length} exceeds the {Frame.maxLength} byte limit"⟩
  | noLength => ⟨.invalidRequest, "Missing Content-Length header"⟩

/-- What is reported of the fault. -/
def StreamFault.fault : StreamFault → Fault
  | headerNotText fault => ⟨.io, s!"Failed to read header: {fault.message}"⟩
  | endInHeaders => ⟨.io, "Unexpected end of stream in headers"⟩
  | endInBody => ⟨.io, "Failed to read content: early eof"⟩

/-- What is reported of the fault. -/
def ReadFault.fault : ReadFault → Fault
  | stream fault => fault.fault
  | header fault => fault.fault
  | notText fault => ⟨.parse, s!"Invalid UTF-8: {fault.message}"⟩
  | content fault => fault.fault

/-! ## Header lines -/

/-- What is known of a header block of which some lines have been read. -/
structure Block where
  /-- Whether a line that is not blank has been read. -/
  begun : Bool := false
  /-- The length given last. -/
  length? : Option Nat := none
  deriving DecidableEq, Repr

/-- What follows from one more line. -/
inductive LineOutcome where
  /-- There are more lines to come. -/
  | more (block : Block)
  /-- The block has ended, and a body of the given length follows. -/
  | body (length : Nat)
  | fault (fault : ReadFault)
  deriving DecidableEq, Repr

/-- Splits a header at its first colon. -/
def splitHeader (line : List Char) : Option (List Char × List Char) :=
  match line.dropWhile (· != ':') with
  | _ :: value => some (line.takeWhile (· != ':'), value)
  | [] => none

/-- Whether two names are the same but for the case of ASCII letters. -/
def sameName (a b : List Char) : Bool :=
  a.map Char.toLower == b.map Char.toLower

namespace Block

/-- The length in a header line; none if the line is another header. -/
def lengthOf (line : List Char) : Except HeaderFault (Option Nat) :=
  match splitHeader line with
  | none => .ok none
  | some (key, value) =>
    if sameName (Text.trim key) Frame.lengthKey.toList then
      match Word64.ofText (Text.trim value) with
      | .error fault => .error (.badLength fault)
      | .ok length =>
        if length ≤ Frame.maxLength then .ok (some length) else .error (.tooLong length)
    else .ok none

/-- Takes in a line, without the blanks at its ends. -/
def addText (block : Block) (line : List Char) : LineOutcome :=
  if line.isEmpty then
    if block.begun then
      match block.length? with
      | some length => .body length
      | none => .fault (.header .noLength)
    else .more block
  else
    match lengthOf line with
    | .error fault => .fault (.header fault)
    | .ok none => .more { block with begun := true }
    | .ok (some length) => .more ⟨true, some length⟩

/-- Takes in the bytes of a line. -/
def addLine (block : Block) (line : List UInt8) : LineOutcome :=
  match Utf8.decode line with
  | .ok s => block.addText (Text.trim s.toList)
  | .error fault => .fault (.stream (.headerNotText fault))

/-- What it means that the stream ends here: nothing follows, or the block is cut off. -/
def atEnd (block : Block) : Except ReadFault (Option Nat) :=
  if block.begun then .error (.stream .endInHeaders) else .ok none

end Block

/-! ## Reading -/

/-- The byte that ends a line. -/
def lineFeed : UInt8 := 10

/-- Reads a header block and gives the length of the body that follows, or nothing if the stream
ends before the block begins. `line` holds the bytes of the current line, last one first. -/
def readBlock (line : List UInt8) (block : Block) :
    List UInt8 → Except ReadFault (Option Nat) × List UInt8
  | [] =>
    if line.isEmpty then (block.atEnd, [])
    else
      match block.addLine line.reverse with
      | .more block => (block.atEnd, [])
      | .body length => (.ok (some length), [])
      | .fault fault => (.error fault, [])
  | byte :: rest =>
    if byte = lineFeed then
      match block.addLine (byte :: line).reverse with
      | .more block => readBlock [] block rest
      | .body length => (.ok (some length), rest)
      | .fault fault => (.error fault, rest)
    else readBlock (byte :: line) block rest

/-- Reads the body of the next frame, or nothing if the stream ends before it. -/
def Frame.read (stream : List UInt8) : Except ReadFault (Option (List UInt8)) × List UInt8 :=
  match readBlock [] {} stream with
  | (.error fault, rest) => (.error fault, rest)
  | (.ok none, rest) => (.ok none, rest)
  | (.ok (some length), rest) =>
    let body := rest.take length
    if body.length < length then (.error (.stream .endInBody), [])
    else (.ok (some body), rest.drop length)

/-- Reads the body of a frame as a message. -/
def Message.ofBody (body : List UInt8) : Except ReadFault Message :=
  match Utf8.decode body with
  | .error fault => .error (.notText fault)
  | .ok text =>
    match ofText text with
    | .ok m => .ok m
    | .error fault => .error (.content fault)

/-- Reads the next message, or nothing if the stream ends before it. -/
def readMessage (stream : List UInt8) : Except ReadFault (Option Message) × List UInt8 :=
  match Frame.read stream with
  | (.error fault, rest) => (.error fault, rest)
  | (.ok none, rest) => (.ok none, rest)
  | (.ok (some body), rest) => ((Message.ofBody body).map some, rest)

/-! ## Writing -/

/-- The bytes of a frame with a given body. -/
def Frame.encode (body : String) : List UInt8 :=
  Utf8.encode s!"{Frame.lengthKey}: {body.utf8ByteSize}\r\n\r\n" ++ Utf8.encode body

/-- The bytes of a message. -/
def Message.frame (m : Message) : List UInt8 :=
  Frame.encode m.render

end ScriptAssist.Rpc
