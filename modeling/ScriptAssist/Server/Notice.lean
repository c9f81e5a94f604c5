import ScriptAssist.Json.Value
import ScriptAssist.Server.Capabilities
import ScriptAssist.Server.Refusal

/-!
# What the server asks of the client

Apart from answers the server sends two kinds of message: a greeting, and the request to open the
documentation.
-/

namespace ScriptAssist

open Json

/-- The method by which a client is asked to show a message. -/
def showMessageMethod : String :=
  "window/showMessage"

/-- The method by which a client is asked to open an address. -/
def showDocumentMethod : String :=
  "window/showDocument"

/-- The words of the greeting. -/
def welcomeText : String :=
  "Frappe Helper is active. Type `frappe.`, `frm.` or open a `frappe.ui.form.on` block for " ++
  "suggestions."

/-- The greeting, marked as a piece of information. -/
def welcomeParams : Value :=
  .ofMembers [("type", .int 3), ("message", .text welcomeText)]

/-- What a command asks of the client. -/
inductive ClientAction where
  /-- To open an address outside the editor. -/
  | showDocument (uri : String)
  deriving DecidableEq, Repr

namespace ClientAction

/-- The action of a command. -/
def ofCommand (command documentationUrl : String) : Except Refusal ClientAction :=
  if command = openDocsCommand then .ok (showDocument documentationUrl)
  else .error (.unknownCommand command)

/-- The method by which the client is asked. -/
def method : ClientAction → String
  | showDocument _ => showDocumentMethod

/-- The parameters with which the client is asked. -/
def params : ClientAction → Value
  | showDocument uri =>
    .ofMembers [("uri", .text uri), ("external", .bool true), ("takeFocus", .bool true)]

end ClientAction

end ScriptAssist
