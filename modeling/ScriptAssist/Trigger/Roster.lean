import ScriptAssist.Trigger.Source

/-!
# Rosters

A roster is a list of sources, at most one for each domain, in the order in which they are tried:
the first source that accepts a query answers it. Registering a source for a domain that has one
puts the new source in the old one's place, so the order of the others does not change.
-/

namespace ScriptAssist

/-- Sources in the order in which they are tried. -/
structure Roster where
  sources : List Source

namespace Roster

/-- The roster without sources. -/
def empty : Roster :=
  ⟨[]⟩

/-- Puts a source in the place of the first one for its domain, or behind all others. -/
def place (source : Source) : List Source → List Source
  | [] => [source]
  | s :: rest => if s.domain = source.domain then source :: rest else s :: place source rest

/-- Adds a source, or replaces the one for its domain. -/
def register (r : Roster) (source : Source) : Roster :=
  ⟨place source r.sources⟩

/-- Adds the sources of rules, one after the other. -/
def registerRules (r : Roster) (rules : List Rule) : Roster :=
  rules.foldl (fun r rule => r.register rule.source) r

/-- The source for a domain. -/
def source? (r : Roster) (domain : Domain) : Option Source :=
  r.sources.find? (·.domain = domain)

/-- Takes the source for a domain out. -/
def unregister (r : Roster) (domain : Domain) : Roster :=
  ⟨r.sources.eraseP (·.domain = domain)⟩

/-- Takes the source for a domain out, and hands it over with the roster that is left. -/
def takeOut (r : Roster) (domain : Domain) : Option Source × Roster :=
  match r.sources.findIdx? (·.domain = domain) with
  | some i => (r.sources[i]?, ⟨r.sources.eraseIdx i⟩)
  | none => (none, r)

/-- The domains that have a source, in order. -/
def domains (r : Roster) : List Domain :=
  r.sources.map (·.domain)

/-- The source that answers a query. -/
def find? (r : Roster) (q : Query) : Option Source :=
  r.sources.find? (·.accepts q)

/-- The characters that some source wants reported, each once, in the order in which they first
come up. -/
def triggers (r : Roster) : List Char :=
  (r.sources.flatMap (·.triggers)).eraseDups

/-- The text that opens a handler map. -/
def eventsMarker : String :=
  "frappe.ui.form.on"

/-- Characters typed inside a handler map. -/
def eventsTriggers : List Char :=
  [',', '{', '(', '"', '\'']

/-- First letters of the globals. -/
def globalsTriggers : List Char :=
  ['f', 'c', 'l']

/-- The rules for the built-in tables. The suffixes stand before the loose condition, so that a
member list inside a handler map wins over the events. -/
def builtinRules : List Rule :=
  [.suffix .root "frappe.",
   .suffix .session "frappe.session.",
   .suffix .database "frappe.db.",
   .suffix .ui "frappe.ui.",
   .trimmedSuffix .attach "frappe.ui.form.",
   .suffix .form "frm.",
   .contains .events eventsMarker eventsTriggers,
   .always .globals globalsTriggers]

/-- The roster of the built-in rules. -/
def builtin : Roster :=
  empty.registerRules builtinRules

end Roster

end ScriptAssist
