import ScriptAssist.Yaml.Token

/-!
# Events

A document is a tree of scalars, sequences and mappings, written down as the list of what comes
up on a walk through it: scalars and aliases, and the starts and ends of collections. The keys
and values of a mapping alternate. What aliases refer to is a parameter: names in the text, and
later numbers.
-/

namespace ScriptAssist.Yaml

/-- What comes up on a walk through a document. -/
inductive Event (Ref : Type) where
  | alias (ref : Ref)
  | scalar (anchor? : Option String) (s : Scalar)
  | sequenceStart (anchor? : Option String)
  | sequenceEnd
  | mappingStart (anchor? : Option String)
  | mappingEnd
  deriving DecidableEq, Repr

namespace Event

/-- The name under which a node can be referred to. -/
def anchor? {Ref : Type} : Event Ref → Option String
  | scalar anchor? _ | sequenceStart anchor? | mappingStart anchor? => anchor?
  | _ => none

/-- The events behind the end of the collections that are open; `depth` counts them. -/
def skipOpen {Ref : Type} : (depth : Nat) → List (Event Ref) → List (Event Ref)
  | 0, events => events
  | _ + 1, [] => []
  | depth + 1, event :: events =>
    match event with
    | sequenceStart _ | mappingStart _ => skipOpen (depth + 2) events
    | sequenceEnd | mappingEnd => skipOpen depth events
    | _ => skipOpen (depth + 1) events

/-- The events behind the first node. -/
def skipNode {Ref : Type} : List (Event Ref) → List (Event Ref)
  | [] => []
  | event :: events =>
    match event with
    | sequenceStart _ | mappingStart _ => skipOpen 1 events
    | _ => events

end Event

end ScriptAssist.Yaml
