import ScriptAssist.Symbols.Symbol

/-!
# Items

An item is one suggestion, ready to be sent to an editor.
-/

namespace ScriptAssist

/-- How an editor is to read an item's text. -/
inductive InsertFormat where
  | plain
  | snippet
  deriving DecidableEq, Repr

namespace InsertFormat

/-- Both formats. -/
def all : List InsertFormat :=
  [plain, snippet]

/-- The name under which a format is written. -/
def name : InsertFormat → String
  | plain => "plain_text"
  | snippet => "snippet"

/-- The format of a name. -/
def ofName? (s : String) : Option InsertFormat :=
  all.find? (·.name == s)

/-- The number that editors know the format by. -/
def code : InsertFormat → Nat
  | plain => 1
  | snippet => 2

end InsertFormat

/-- A suggestion. -/
structure Item where
  label : String
  kind : SymbolKind
  detail : String
  insertText : String
  insertFormat : InsertFormat
  documentation : String
  sortText : String
  filterText : String
  preselect : Bool
  deriving DecidableEq, Repr

end ScriptAssist
