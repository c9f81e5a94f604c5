import ScriptAssist.Yaml.EventReader

/-!
# Documents

A document is its events, in which aliases are resolved to numbers, with what the numbers stand
for. A number is given to an anchor as it comes up: the number of names known before it. An alias
gets the number that its name has at that point. What a number stands for is settled at the end,
by the last anchor that got it.
-/

namespace ScriptAssist.Yaml

/-- A document. Without events there is none. -/
structure Document where
  events : List (Event Nat)
  /-- What the numbers of anchors stand for; none for collections. Later ones come first. -/
  anchored : List (Nat × Option Scalar)
  deriving DecidableEq, Repr

namespace Document

/-- What is known while anchors are numbered. -/
structure Naming where
  /-- The number of each name that has come up. -/
  numbers : List (String × Nat) := []
  anchored : List (Nat × Option Scalar) := []

/-- Gives a number to an anchor. -/
def Naming.add (names : Naming) (anchor : String) (scalar? : Option Scalar) : Naming :=
  let number := names.numbers.length
  ⟨(anchor, number) :: names.numbers.filter (·.1 != anchor),
    (number, scalar?) :: names.anchored⟩

/-- Takes note of the anchor of a node, if it has one. -/
def Naming.note (names : Naming) (anchor? : Option String) (scalar? : Option Scalar) : Naming :=
  match anchor? with
  | some anchor => names.add anchor scalar?
  | none => names

/-- Numbers the anchors of events; none if an alias has no anchor before it. -/
def resolve : Naming → List (Event String) → Option Document
  | names, [] => some ⟨[], names.anchored⟩
  | names, event :: rest =>
    let step : Option (Naming × Event Nat) :=
      match event with
      | .alias name => (names.numbers.lookup name).map fun number => (names, .alias number)
      | .scalar anchor? s => some (names.note anchor? (some s), .scalar anchor? s)
      | .sequenceStart anchor? => some (names.note anchor? none, .sequenceStart anchor?)
      | .mappingStart anchor? => some (names.note anchor? none, .mappingStart anchor?)
      | .sequenceEnd => some (names, .sequenceEnd)
      | .mappingEnd => some (names, .mappingEnd)
    match step with
    | none => none
    | some (names, event) =>
      (resolve names rest).map fun d => { d with events := event :: d.events }

/-- The document of a text; none if the text is faulty, or holds more than one. -/
def ofText? (text : List Char) : Option Document := do
  let tokens ← Token.ofText? text
  let events ← Event.ofTokens? tokens
  resolve {} events

/-- The scalar that an event is or refers to. -/
def scalarOf (d : Document) : Event Nat → Option Scalar
  | .scalar _ s => some s
  | .alias number => (d.anchored.lookup number).join
  | _ => none

end Document

end ScriptAssist.Yaml
