/-!
# Domains

The symbols of the scripting API fall into domains, and each completion draws on one of them.
-/

namespace ScriptAssist

/-- A group of symbols that is offered together. -/
inductive Domain where
  /-- Members of `frappe`. -/
  | root
  /-- Members of `frappe.session`. -/
  | session
  /-- Members of `frappe.db`. -/
  | database
  /-- Members of `frappe.ui`. -/
  | ui
  /-- What attaches a handler map to a form. -/
  | attach
  /-- Members of a form object. -/
  | form
  /-- Events that can be keys of a handler map. -/
  | events
  /-- Names that are in scope everywhere. -/
  | globals
  deriving DecidableEq, Repr

namespace Domain

/-- All domains, in the order in which they are tried. -/
def all : List Domain :=
  [root, session, database, ui, attach, form, events, globals]

theorem mem_all (d : Domain) : d ∈ all := by
  cases d <;> decide

/-- The name under which a domain is written. -/
def name : Domain → String
  | root => "root_namespace"
  | session => "session"
  | database => "database"
  | ui => "ui_namespace"
  | attach => "attach_handler"
  | form => "form_instance"
  | events => "form_events"
  | globals => "globals"

/-- The domain of a name. -/
def ofName? (s : String) : Option Domain :=
  all.find? (·.name == s)

theorem ofName?_name (d : Domain) : ofName? d.name = some d := by
  cases d <;> decide

end Domain

end ScriptAssist
