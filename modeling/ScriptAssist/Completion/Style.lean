import ScriptAssist.Completion.Item

/-!
# Styles

A style turns symbols into items: it chooses the dialect of the inserted text and may append a
link to the documentation.
-/

namespace ScriptAssist

open Snippet

/-- How symbols are presented. -/
structure Style where
  link? : Option String := none
  dialect : Dialect := .slots
  deriving DecidableEq, Repr

namespace Style

/-- Stands before every sort key, so that these items come ahead of an editor's own. -/
def sortMark : String :=
  "000_"

/-- The documentation of a symbol: its detail, and the link if there is one. -/
def documentation (style : Style) (detail : String) : String :=
  match style.link? with
  | none => detail
  | some link => detail ++ "\n\n[Frappe Framework documentation](" ++ link ++ ")"

/-- Whether a symbol is inserted as a snippet: the dialect has slots, and so has its template. -/
def showsSlots (style : Style) (s : Symbol) : Bool :=
  style.dialect = .slots && s.template.hasSlot

/-- The item for a symbol. -/
def present (style : Style) (s : Symbol) : Item where
  label := s.label
  kind := s.kind
  detail := s.detail
  insertText := if style.showsSlots s then s.template.snippet else s.template.plainText
  insertFormat := if style.showsSlots s then .snippet else .plain
  documentation := style.documentation s.detail
  sortText := sortMark ++ s.label
  filterText := s.label
  preselect := true

end Style

end ScriptAssist
