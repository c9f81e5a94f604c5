import ScriptAssist.Completion.Item
import ScriptAssist.Json.Record
import ScriptAssist.Symbols.Domain
import ScriptAssist.Text.Position

/-!
# Items as JSON

Items are written in two ways. `Item.toValue` keeps them as they are, with the names of kinds and
formats, and can be read back; `Item.toEditorValue` is what editors expect, with their numbers.
-/

namespace ScriptAssist

open Json

/-- Reads the name of a domain. -/
def Domain.decoder : Decoder Domain :=
  .choice (all.map fun d => (d.name, d))

/-- A domain by its name. -/
def Domain.toValue (d : Domain) : Value :=
  .text d.name

/-- Reads the name of a kind. -/
def SymbolKind.decoder : Decoder SymbolKind :=
  .choice (all.map fun k => (k.name, k))

/-- A kind by its name. -/
def SymbolKind.toValue (k : SymbolKind) : Value :=
  .text k.name

/-- Reads the name of a format. -/
def InsertFormat.decoder : Decoder InsertFormat :=
  .choice (all.map fun f => (f.name, f))

/-- A format by its name. -/
def InsertFormat.toValue (f : InsertFormat) : Value :=
  .text f.name

/-- The record of positions. -/
def Position.record : Record (UInt32 × UInt32 × Unit) Position where
  name := "Position"
  layout := .required "line" .word32 <| .required "character" .word32 .done
  build := fun (line, character, ()) => ⟨line, character⟩

/-- A position as a value. -/
def Position.toValue (p : Position) : Value :=
  .object [("line", .int p.line.toNat), ("character", .int p.character.toNat)]

namespace Item

/-- The record of items. -/
def record : Record (String × SymbolKind × String × String × InsertFormat × String × String ×
    String × Bool × Unit) Item where
  name := "CompletionItem"
  layout :=
    .required "label" .text <| .required "kind" SymbolKind.decoder <|
    .required "detail" .text <| .required "insert_text" .text <|
    .required "insert_text_format" InsertFormat.decoder <| .required "documentation" .text <|
    .required "sort_text" .text <| .required "filter_text" .text <|
    .required "preselect" .bool .done
  build := fun (label, kind, detail, insertText, insertFormat, documentation, sortText,
      filterText, preselect, ()) =>
    { label, kind, detail, insertText, insertFormat, documentation, sortText, filterText,
      preselect }

/-- An item as a value. -/
def toValue (i : Item) : Value :=
  .object [("label", .text i.label), ("kind", i.kind.toValue), ("detail", .text i.detail),
    ("insert_text", .text i.insertText), ("insert_text_format", i.insertFormat.toValue),
    ("documentation", .text i.documentation), ("sort_text", .text i.sortText),
    ("filter_text", .text i.filterText), ("preselect", .bool i.preselect)]

/-- An item as an editor expects it. -/
def toEditorValue (i : Item) : Value :=
  .ofMembers [("label", .text i.label), ("kind", .int i.kind.code), ("detail", .text i.detail),
    ("documentation", .ofMembers [("kind", .text "markdown"), ("value", .text i.documentation)]),
    ("sortText", .text i.sortText), ("filterText", .text i.filterText),
    ("insertText", .text i.insertText), ("insertTextFormat", .int i.insertFormat.code),
    ("preselect", .bool i.preselect)]

end Item

end ScriptAssist
