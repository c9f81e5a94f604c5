import ScriptAssist.Completion.Assistant

/-!
# Settings

The four settings, their defaults, and the check that every set of settings passes before it is
used: the address of the documentation has to be a web address.
-/

namespace ScriptAssist

/-- Where the documentation is found unless the settings say otherwise. -/
def defaultDocumentationUrl : String :=
  "https://frappeframework.com/docs/user/en/api"

/-- What the user can choose. -/
structure Settings where
  /-- Whether the editor is asked to greet the user. -/
  showWelcome : Bool := true
  documentationUrl : String := defaultDocumentationUrl
  /-- Whether items link to the documentation. -/
  appendLink : Bool := false
  /-- Whether items are inserted as snippets. -/
  snippets : Bool := true
  deriving DecidableEq, Repr

namespace Settings

/-- Why settings are refused. -/
inductive Flaw where
  | emptyUrl
  | notWebUrl (url : String)
  deriving DecidableEq, Repr

/-- The flaw in words. -/
def Flaw.message : Flaw → String
  | emptyUrl => "Documentation URL cannot be empty"
  | notWebUrl url => s!"Documentation URL must be http(s): {url}"

/-- What a web address begins with. -/
def webSchemes : List String :=
  ["http://", "https://"]

/-- Whether a text begins like a web address. -/
def isWebUrl (s : List Char) : Bool :=
  webSchemes.any fun scheme => scheme.toList.isPrefixOf s

/-- What is wrong with settings, if anything. Blanks around the address do not matter. -/
def flaw? (s : Settings) : Option Flaw :=
  let url := Text.trim s.documentationUrl.toList
  if url.isEmpty then some .emptyUrl
  else if isWebUrl url then none
  else some (.notWebUrl s.documentationUrl)

/-- The settings if nothing is wrong with them. -/
def check (s : Settings) : Except Flaw Settings :=
  match s.flaw? with
  | none => .ok s
  | some flaw => .error flaw

/-- The link that items carry. -/
def link? (s : Settings) : Option String :=
  if s.appendLink then some s.documentationUrl else none

/-- The style that the settings ask for. -/
def style (s : Settings) : Style where
  link? := s.link?
  dialect := if s.snippets then .slots else .plain

end Settings

/-- The built-in assistant in the style that settings ask for. -/
def Assistant.ofSettings (s : Settings) : Assistant :=
  .builtin s.style

end ScriptAssist
