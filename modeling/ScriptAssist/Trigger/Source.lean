import ScriptAssist.Symbols.Catalog
import ScriptAssist.Trigger.Condition

/-!
# Sources

A source offers the symbols of one domain and decides for which queries. The usual source comes
from a rule: a condition, and the characters that the editor should report. A source need not
come from a rule, and may draw on another domain's table.
-/

namespace ScriptAssist

/-- Offers symbols for the queries that it accepts. -/
structure Source where
  domain : Domain
  accepts : Query → Bool
  /-- The characters that the editor should report as they are typed. -/
  triggers : List Char := []
  symbols : Catalog → List Symbol := fun catalog => catalog.symbols domain

/-- A source given by a condition. -/
structure Rule where
  domain : Domain
  condition : Condition
  triggers : List Char
  /-- When present, no other character may have brought the query about. -/
  only? : Option (List Char) := none
  deriving DecidableEq, Repr

namespace Rule

/-- For lines that end with a text, most often a name and a dot. -/
def suffix (domain : Domain) (literal : String) : Rule :=
  { domain, condition := .lineEndsWith literal, triggers := ['.'] }

/-- For lines that end with a text but for blanks. -/
def trimmedSuffix (domain : Domain) (literal : String) : Rule :=
  { domain, condition := .trimmedLineEndsWith literal, triggers := ['.'] }

/-- For documents in which a text has been passed. -/
def contains (domain : Domain) (literal : String) (triggers : List Char) : Rule :=
  { domain, condition := .documentContains literal, triggers }

/-- For every document, on explicit request or after one of the given characters. -/
def always (domain : Domain) (triggers : List Char) : Rule :=
  { domain, condition := .always, triggers, only? := some triggers }

/-- Whether the query may have been brought about as it was. -/
def admits (r : Rule) (trigger : Trigger) : Bool :=
  match r.only?, trigger with
  | some only, .typed c => only.contains c
  | _, _ => true

/-- The source that a rule describes. -/
def source (r : Rule) : Source where
  domain := r.domain
  accepts q := r.admits q.trigger && r.condition.holds q
  triggers := r.triggers

end Rule

end ScriptAssist
