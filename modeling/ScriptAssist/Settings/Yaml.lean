import ScriptAssist.Settings.Field
import ScriptAssist.Yaml.Document

/-!
# Settings as YAML

Settings are a mapping. What is left out takes its default, and so does everything if there is no
document, or an empty one. Keys that are no settings are passed over.
-/

namespace ScriptAssist.Settings

open Yaml

/-- The tag of truth values. -/
def boolTag : List Char :=
  "tag:yaml.org,2002:bool".toList

/-- The ways in which truth values are written. -/
def boolWords : List (String × Bool) :=
  [("true", true), ("True", true), ("TRUE", true), ("false", false), ("False", false),
   ("FALSE", false)]

/-- Reads a truth value. It is plain; a literal one needs the tag. -/
def readBool (s : Scalar) : Option Bool :=
  if s.style = .plain ∨ (s.style = .literal ∧ s.tag? = some boolTag) then boolWords.lookup s.text
  else none

/-- The settings with one of them read from a scalar. -/
def setFrom (s : Settings) (scalar : Scalar) : Field → Option Settings
  | .showWelcome => (readBool scalar).map fun b => { s with showWelcome := b }
  | .documentationUrl => some { s with documentationUrl := scalar.text }
  | .appendLink => (readBool scalar).map fun b => { s with appendLink := b }
  | .snippets => (readBool scalar).map fun b => { s with snippets := b }

/-- Reads the members of a mapping up to its end. No setting may come up twice. -/
def readMembers (d : Document) :
    (fuel : Nat) → (seen : List Field) → Settings → List (Event Nat) → Option Settings
  | 0, _, _, _ => none
  | _, _, s, .mappingEnd :: _ => some s
  | _, _, _, [] => none
  | fuel + 1, seen, s, key :: value => do
    let name ← d.scalarOf key
    match Field.ofName? name.text with
    | none => readMembers d fuel seen s (Event.skipNode value)
    | some field =>
      if seen.contains field then none
      else
        let scalar ← value.head?.bind d.scalarOf
        let s ← s.setFrom scalar field
        readMembers d fuel (field :: seen) s value.tail

/-- The settings in a document. -/
def ofDocument? (d : Document) : Option Settings :=
  match d.events with
  | [] => some {}
  | .scalar _ s :: _ => if s.style = .plain ∧ s.text.isEmpty then some {} else none
  | .mappingStart _ :: members => readMembers d (d.events.length + 1) [] {} members
  | _ => none

/-- Reads settings; none if the text is faulty, or is not about settings. -/
def ofYaml? (text : String) : Option Settings :=
  (Document.ofText? text.toList).bind ofDocument?

end ScriptAssist.Settings
