import ScriptAssist.Json.Printer
import ScriptAssist.Rpc.Fault

/-!
# Messages

A message is a request, a response or a notification. Its text is one JSON object with the
members in a fixed order, from which optional members that are absent are left out. Reading a
message decides by the keys of the object which of the three it is; then the members have to be
of the right types.
-/

namespace ScriptAssist.Rpc

open Json

/-- The version that messages are marked with. -/
def protocolVersion : String :=
  "2.0"

/-- Why a request failed. -/
structure ErrorObject where
  code : Int
  message : String
  data? : Option Value := none

/-- A message that wants an answer. -/
structure Request where
  version : String := protocolVersion
  id : Value
  method : String
  params? : Option Value := none

/-- The answer to a request. -/
structure Response where
  version : String := protocolVersion
  id : Value
  result? : Option Value := none
  error? : Option ErrorObject := none

/-- A message that wants no answer. -/
structure Notification where
  version : String := protocolVersion
  method : String
  params? : Option Value := none

/-- A message. -/
inductive Message where
  | request (r : Request)
  | response (r : Response)
  | notification (n : Notification)

/-- What an error object says of a fault. -/
def Fault.toErrorObject (fault : Fault) : ErrorObject where
  code := fault.code
  message := fault.message

/-- The answer that a request succeeded. -/
def Response.success (id result : Value) : Response :=
  { id, result? := some result }

/-- The answer that a request failed. -/
def Response.failure (id : Value) (fault : Fault) : Response :=
  { id, error? := some fault.toErrorObject }

/-! ## Printing -/

/-- A member that is there only if it has a value. -/
def optionalMember (key : String) (value? : Option Value) : List (String × Value) :=
  value?.toList.map fun value => (key, value)

/-- An error object as a value. -/
def ErrorObject.toValue (e : ErrorObject) : Value :=
  .object ([("code", .int e.code), ("message", .text e.message)] ++
    optionalMember "data" e.data?)

/-- A request as a value. -/
def Request.toValue (r : Request) : Value :=
  .object ([("jsonrpc", .text r.version), ("id", r.id), ("method", .text r.method)] ++
    optionalMember "params" r.params?)

/-- A response as a value. -/
def Response.toValue (r : Response) : Value :=
  .object ([("jsonrpc", .text r.version), ("id", r.id)] ++ optionalMember "result" r.result? ++
    optionalMember "error" (r.error?.map ErrorObject.toValue))

/-- A notification as a value. -/
def Notification.toValue (n : Notification) : Value :=
  .object ([("jsonrpc", .text n.version), ("method", .text n.method)] ++
    optionalMember "params" n.params?)

namespace Message

/-- A message as a value. -/
def toValue : Message → Value
  | request r => r.toValue
  | response r => r.toValue
  | notification n => n.toValue

/-- The text of a message. -/
def render (m : Message) : String :=
  m.toValue.render

/-- The method that a message names; responses name none. -/
def method? : Message → Option String
  | request r => some r.method
  | response _ => none
  | notification n => some n.method

end Message

/-! ## Reading -/

/-- The record of error objects. -/
def ErrorObject.record : Record (Int × String × Option Value × Unit) ErrorObject where
  name := "JsonRpcError"
  layout := .required "code" .int32 <| .required "message" .text <| .possible "data" .any .done
  build := fun (code, message, data?, ()) => { code, message, data? }

/-- The record of requests. -/
def Request.record : Record (String × Value × String × Option Value × Unit) Request where
  name := "JsonRpcRequest"
  layout :=
    .required "jsonrpc" .text <| .required "id" .any <| .required "method" .text <|
    .possible "params" .any .done
  build := fun (version, id, method, params?, ()) => { version, id, method, params? }

/-- The record of responses. -/
def Response.record :
    Record (String × Value × Option Value × Option ErrorObject × Unit) Response where
  name := "JsonRpcResponse"
  layout :=
    .required "jsonrpc" .text <| .required "id" .any <| .possible "result" .any <|
    .possible "error" ErrorObject.record.decoder .done
  build := fun (version, id, result?, error?, ()) => { version, id, result?, error? }

/-- The record of notifications. -/
def Notification.record : Record (String × String × Option Value × Unit) Notification where
  name := "JsonRpcNotification"
  layout :=
    .required "jsonrpc" .text <| .required "method" .text <| .possible "params" .any .done
  build := fun (version, method, params?, ()) => { version, method, params? }

/-- The three kinds of message. -/
inductive Shape where
  | request
  | response
  | notification
  deriving DecidableEq, Repr

namespace Shape

/-- The name of a kind of message. -/
def name : Shape → String
  | request => "request"
  | response => "response"
  | notification => "notification"

/-- The kind of message that a value is meant to be, by its keys alone: a member that is null
counts. -/
def of? (v : Value) : Option Shape :=
  let has (key : String) : Bool := (v.get? key).isSome
  if has "result" || has "error" then some response
  else if has "method" then some (if has "id" then request else notification)
  else none

end Shape

/-- The kind of a message. -/
def Message.shape : Message → Shape
  | request _ => .request
  | response _ => .response
  | notification _ => .notification

/-- Why a text is no message. -/
inductive ContentFault where
  | notJson (fault : Json.Fault)
  | shapeless
  | misshapen (shape : Shape) (mismatch : Mismatch)
  deriving DecidableEq, Repr

/-- What is reported of the fault. -/
def ContentFault.fault : ContentFault → Fault
  | notJson fault => ⟨.parse, s!"Failed to parse JSON: {fault.message}"⟩
  | shapeless => ⟨.invalidRequest, "Message must be a request, response, or notification"⟩
  | misshapen shape mismatch =>
    ⟨.parse, s!"Failed to parse {shape.name}: {mismatch.message}"⟩

namespace Message

/-- Reads a value as a message of a given kind. -/
def ofShape (shape : Shape) (v : Value) : Except Mismatch Message :=
  match shape with
  | .request => (Request.record.convert v).map request
  | .response => (Response.record.convert v).map response
  | .notification => (Notification.record.convert v).map notification

/-- Reads a value as a message. -/
def ofValue (v : Value) : Except ContentFault Message :=
  match Shape.of? v with
  | none => .error .shapeless
  | some shape =>
    match ofShape shape v with
    | .ok m => .ok m
    | .error mismatch => .error (.misshapen shape mismatch)

/-- Reads a text as a message. -/
def ofText (text : String) : Except ContentFault Message :=
  match Value.parse text with
  | .ok v => ofValue v
  | .error fault => .error (.notJson fault)

end Message

end ScriptAssist.Rpc
