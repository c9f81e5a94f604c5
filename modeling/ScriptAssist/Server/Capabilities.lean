import ScriptAssist.Json.Value
import ScriptAssist.Trigger.Roster

/-!
# Capabilities

What client and server tell each other about what they can do.
-/

namespace ScriptAssist

open Json

/-- What a client says that it can do. -/
structure ClientCapabilities where
  raw : Value

namespace ClientCapabilities

/-- Where a client says whether it understands snippets. -/
def snippetPath : List String :=
  ["textDocument", "completion", "completionItem", "snippetSupport"]

/-- Whether a client understands snippets. It has to say so. -/
def snippets (c : ClientCapabilities) : Bool :=
  ((c.raw.path? snippetPath).bind Value.bool?).getD false

end ClientCapabilities

/-- The name of the command that opens the documentation. -/
def openDocsCommand : String :=
  "frappe-helper.openDocs"

/-- What the server can do. -/
structure ServerCapabilities where
  /-- How documents are kept in step: one stands for whole texts. -/
  documentSync : Nat := 1
  /-- The characters that the editor should report. -/
  triggers : List Char := Roster.builtin.triggers
  commands : List String := [openDocsCommand]
  deriving DecidableEq, Repr

/-- What the server can do, as a value. -/
def ServerCapabilities.toValue (c : ServerCapabilities) : Value :=
  .ofMembers [("textDocumentSync", .int c.documentSync),
    ("completionProvider", .ofMembers [("resolveProvider", .bool false),
      ("triggerCharacters", .texts (c.triggers.map Char.toString))]),
    ("executeCommandProvider", .ofMembers [("commands", .texts c.commands)])]

end ScriptAssist
