import ScriptAssist.Snippet.Template

/-!
# Symbols

A symbol is one name of the API, with a line that describes it and the template that inserts it.
-/

namespace ScriptAssist

open Snippet

/-- What a symbol is. Nothing but its icon and the rule on templates depends on it. -/
inductive SymbolKind where
  | property
  | method
  | function
  /-- A name bound to a value. -/
  | binding
  deriving DecidableEq, Repr

namespace SymbolKind

/-- All kinds. -/
def all : List SymbolKind :=
  [property, method, function, binding]

/-- The name under which a kind is written. -/
def name : SymbolKind → String
  | property => "property"
  | method => "method"
  | function => "function"
  | binding => "variable"

/-- The kind of a name. -/
def ofName? (s : String) : Option SymbolKind :=
  all.find? (·.name == s)

/-- Whether the symbol is inserted as a call or a block. -/
def isCallable : SymbolKind → Bool
  | method | function => true
  | property | binding => false

/-- The number that editors know the kind by. -/
def code : SymbolKind → Nat
  | method => 2
  | function => 3
  | binding => 6
  | property => 10

end SymbolKind

/-- A name of the API. -/
structure Symbol where
  label : String
  kind : SymbolKind
  detail : String
  template : Template
  deriving DecidableEq, Repr

/-- A symbol that is inserted as its own label. -/
def Symbol.plain (label : String) (kind : SymbolKind) (detail : String) : Symbol :=
  ⟨label, kind, detail, .ofText label⟩

end ScriptAssist
