import ScriptAssist.Json.Value
import ScriptAssist.Server.Refusal
import ScriptAssist.Text.Position
import ScriptAssist.Trigger.Query

/-!
# Parameters

What the server reads from the parameters of messages. Parameters may be any value; whatever is
not there in the right type is missing.
-/

namespace ScriptAssist.Params

open Json

/-- What is found, or the refusal that names what is missing. -/
def need {α : Type} (name : String) : Option α → Except Refusal α
  | some a => .ok a
  | none => .error (.missing name)

/-- The description of a document. -/
def document (params : Value) : Except Refusal Value :=
  need "textDocument" (params.get? "textDocument")

/-- The address of a document. -/
def uri (params : Value) : Except Refusal String := do
  let document ← document params
  need "uri" ((document.get? "uri").bind Value.text?)

/-- The text of a document that is opened. -/
def openedText (params : Value) : Except Refusal String := do
  let document ← document params
  need "text" ((document.get? "text").bind Value.text?)

/-- The new text of a document that has changed. Of several changes the last one counts, and only
if it has a text. -/
def changedText (params : Value) : Except Refusal (Option String) := do
  let changes ← need "contentChanges" ((params.get? "contentChanges").bind Value.items?)
  return (changes.getLast?.bind (·.get? "text")).bind Value.text?

/-- A number as a 32-bit word. Greater numbers become the greatest word, which is past the end of
any line and any text. -/
def saturate (n : Nat) : UInt32 :=
  UInt32.ofNat (min n 0xFFFFFFFF)

/-- A position. -/
def position (params : Value) : Except Refusal Position := do
  let position ← need "position" (params.get? "position")
  let line ← need "line" ((position.get? "line").bind Value.natural?)
  let character ← need "character" ((position.get? "character").bind Value.natural?)
  return ⟨saturate line, saturate character⟩

/-- The number by which editors say that a character was typed. -/
def typedCode : Nat := 2

/-- What brought a request about. Unless the context says that a character was typed, and which,
the user asked for it. -/
def trigger (params : Value) : Trigger :=
  let kind? := (params.path? ["context", "triggerKind"]).bind Value.natural?
  let text? := (params.path? ["context", "triggerCharacter"]).bind Value.text?
  match kind?, text?.bind (·.toList.head?) with
  | some kind, some c => if kind = typedCode then .typed c else .invoked
  | _, _ => .invoked

/-- The name of a command. -/
def command (params : Value) : Except Refusal String :=
  need "command" ((params.get? "command").bind Value.text?)

end ScriptAssist.Params
