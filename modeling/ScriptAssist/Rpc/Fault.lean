import ScriptAssist.Json.Record

/-!
# Faults

Whatever goes wrong while messages are read, handled and written is reported as a fault: one of
seven kinds, with words for the detail. The kind decides the code under which a client hears of
it.
-/

namespace ScriptAssist.Rpc

open Json

/-- The kinds of fault. -/
inductive FaultKind where
  | parse
  | invalidRequest
  | methodNotFound
  | invalidParams
  | internal
  | io
  | serialization
  deriving DecidableEq, Repr

namespace FaultKind

/-- All kinds. -/
def all : List FaultKind :=
  [parse, invalidRequest, methodNotFound, invalidParams, internal, io, serialization]

/-- The name under which a kind is written. -/
def name : FaultKind → String
  | parse => "ParseError"
  | invalidRequest => "InvalidRequest"
  | methodNotFound => "MethodNotFound"
  | invalidParams => "InvalidParams"
  | internal => "InternalError"
  | io => "IoError"
  | serialization => "SerializationError"

/-- The kind in words. -/
def title : FaultKind → String
  | parse => "Parse error"
  | invalidRequest => "Invalid request"
  | methodNotFound => "Method not found"
  | invalidParams => "Invalid parameters"
  | internal => "Internal error"
  | io => "IO error"
  | serialization => "Serialization error"

/-- The code that clients know a kind by. -/
def code : FaultKind → Int
  | parse => -32700
  | invalidRequest => -32600
  | methodNotFound => -32601
  | invalidParams => -32602
  | internal | io | serialization => -32603

end FaultKind

/-- Something that went wrong. -/
structure Fault where
  kind : FaultKind
  detail : String
  deriving DecidableEq, Repr

namespace Fault

/-- The fault in words. -/
def message (fault : Fault) : String :=
  fault.kind.title ++ ": " ++ fault.detail

/-- The code of the fault. -/
def code (fault : Fault) : Int :=
  fault.kind.code

/-- Reads an object with the kind as its key and the detail as its value. -/
def decoder : Decoder Fault :=
  let d : Decoder (FaultKind × String) :=
    .tagged (FaultKind.all.map fun k => (k.name, k)) .text none
  { read depth c := yielding (d.read depth c) fun (kind, detail) => ⟨kind, detail⟩
    convert v := (d.convert v).map fun (kind, detail) => ⟨kind, detail⟩ }

/-- A fault as a value. -/
def toValue (fault : Fault) : Value :=
  .object [(fault.kind.name, .text fault.detail)]

end Fault

end ScriptAssist.Rpc
