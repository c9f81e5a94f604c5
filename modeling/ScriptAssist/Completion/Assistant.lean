import ScriptAssist.Completion.Style
import ScriptAssist.Symbols.Tables
import ScriptAssist.Trigger.Roster

/-!
# Assistants

An assistant answers queries: its roster picks the source, the source its symbols from the
catalog, and the style turns them into items. The answer is a function of the query alone, and an
empty list means that there is nothing to suggest. An engine is whatever answers in this way.
-/

namespace ScriptAssist

open Snippet

/-- Symbols, the sources that offer them, and how they are presented. -/
structure Assistant where
  catalog : Catalog
  roster : Roster
  style : Style

namespace Assistant

/-- The assistant with the built-in tables and rules. -/
def builtin (style : Style) : Assistant :=
  ⟨.builtin, .builtin, style⟩

/-- The domain whose source answers a query. -/
def domain? (a : Assistant) (q : Query) : Option Domain :=
  (a.roster.find? q).map (·.domain)

/-- The symbols that answer a query. -/
def symbols (a : Assistant) (q : Query) : List Symbol :=
  match a.roster.find? q with
  | some source => source.symbols a.catalog
  | none => []

/-- The answer to a query. -/
def complete (a : Assistant) (q : Query) : List Item :=
  (a.symbols q).map a.style.present

/-- The answer to a query, in a dialect of the caller's choice. -/
def completeIn (a : Assistant) (dialect : Dialect) (q : Query) : List Item :=
  if dialect = a.style.dialect then a.complete q
  else (a.symbols q).map { a.style with dialect }.present

end Assistant

/-- Whatever answers with items, given a text, an offset in it and what makes the client ask. -/
structure Engine where
  complete : (text : List Char) → (offset : Nat) → Trigger → List Item

/-- An assistant at work. -/
def Engine.ofAssistant (a : Assistant) : Engine where
  complete text offset trigger := a.complete (.ofCursor text offset trigger)

end ScriptAssist
