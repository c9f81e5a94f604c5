import ScriptAssist.Settings.Basic

/-!
# Names of settings

The names under which settings are written.
-/

namespace ScriptAssist.Settings

/-- The settings by name. -/
inductive Field where
  | showWelcome
  | documentationUrl
  | appendLink
  | snippets
  deriving DecidableEq, Repr

namespace Field

/-- All settings. -/
def all : List Field :=
  [showWelcome, documentationUrl, appendLink, snippets]

/-- The name of a setting. -/
def name : Field → String
  | showWelcome => "show_welcome_message"
  | documentationUrl => "documentation_url"
  | appendLink => "append_doc_link"
  | snippets => "snippet_support"

/-- The setting of a name. -/
def ofName? (s : String) : Option Field :=
  all.find? (·.name == s)

theorem ofName?_name (f : Field) : ofName? f.name = some f := by
  cases f <;> decide

end Field

end ScriptAssist.Settings
