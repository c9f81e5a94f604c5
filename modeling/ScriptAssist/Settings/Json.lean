import ScriptAssist.Json.Record
import ScriptAssist.Settings.Field

/-!
# Settings as JSON

Settings are a record of which any field may be left out; what is left out takes its default.
-/

namespace ScriptAssist.Settings

open Json

/-- The record of settings. -/
def record : Record (Bool × String × Bool × Bool × Unit) Settings where
  name := "EngineConfig"
  layout :=
    let default : Settings := {}
    .field Field.showWelcome.name .bool (some default.showWelcome) <|
    .field Field.documentationUrl.name .text (some default.documentationUrl) <|
    .field Field.appendLink.name .bool (some default.appendLink) <|
    .field Field.snippets.name .bool (some default.snippets) .done
  lenient := true
  build := fun (showWelcome, documentationUrl, appendLink, snippets, ()) =>
    { showWelcome, documentationUrl, appendLink, snippets }

/-- Settings as a value, with all fields. -/
def toValue (s : Settings) : Value :=
  .object [(Field.showWelcome.name, .bool s.showWelcome),
    (Field.documentationUrl.name, .text s.documentationUrl),
    (Field.appendLink.name, .bool s.appendLink), (Field.snippets.name, .bool s.snippets)]

end ScriptAssist.Settings
