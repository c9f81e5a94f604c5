import ScriptAssist.Yaml.Event
import ScriptAssist.Yaml.TokenReader

/-!
# Reading events

The tokens of a stream are read as one document at most: maybe directives, a node, and the end of
the stream. A node that is left out is an empty plain scalar.
-/

namespace ScriptAssist.Yaml

/-- What has been read so far: the tokens to come, and the events, last one first. -/
structure EventReader where
  tokens : List Token
  events : List (Event String) := []

/-- Tag handles and what they stand for. -/
abbrev Handles := List (List Char × List Char)

/-- The handles that every document knows. -/
def defaultHandles : Handles :=
  [(['!'], ['!']), (['!', '!'], "tag:yaml.org,2002:".toList)]

/-- The tag that a name stands for. -/
def TagName.resolve? (name : TagName) (handles : Handles) : Option (List Char) :=
  if name.handle.isEmpty then some name.suffix
  else (handles.lookup name.handle).map (· ++ name.suffix)

/-- What stands before a node: a name to refer to it, and a tag. -/
structure Properties where
  anchor? : Option String := none
  tag? : Option TagName := none

/-- Reads the properties of a node, in either order. -/
def readProperties : List Token → Properties × List Token
  | .anchor name :: .tag tag :: rest => (⟨some name, some tag⟩, rest)
  | .tag tag :: .anchor name :: rest => (⟨some name, some tag⟩, rest)
  | .anchor name :: rest => (⟨some name, none⟩, rest)
  | .tag tag :: rest => (⟨none, some tag⟩, rest)
  | rest => ({}, rest)

/-- The tag of a scalar. A lone exclamation mark says nothing about the type. -/
def scalarTag (tag? : Option (List Char)) : Option (List Char) :=
  tag?.filter (· != ['!'])

namespace EventReader

/-- The reader behind the next token. -/
def next (r : EventReader) : EventReader :=
  { r with tokens := r.tokens.tail }

/-- Adds an event. -/
def emit (r : EventReader) (event : Event String) : EventReader :=
  { r with events := event :: r.events }

/-- Adds an empty plain scalar. -/
def emitEmpty (r : EventReader) : EventReader :=
  r.emit (.scalar none ⟨"", .plain, none⟩)

/-- Whether the next token is one of some tokens. -/
def atAny (r : EventReader) (tokens : List Token) : Bool :=
  r.tokens.head?.any tokens.contains

mutual

/-- Reads a node. `block` says whether it may be a block, and `indentless` whether it may be a
sequence in the column of the mapping around it. -/
def readNode (handles : Handles) :
    (fuel : Nat) → (block indentless : Bool) → EventReader → Option EventReader
  | 0, _, _, _ => none
  | fuel + 1, block, indentless, r =>
    match r.tokens with
    | .alias name :: _ => some (r.next.emit (.alias name))
    | tokens =>
      let (properties, tokens) := readProperties tokens
      let anchor? := properties.anchor?
      let r := { r with tokens }
      match properties.tag?.mapM (·.resolve? handles) with
      | none => none
      | some tag? =>
        match tokens with
        | .blockEntry :: _ =>
          if indentless then readIndentlessItems handles fuel (r.emit (.sequenceStart anchor?))
          else if anchor?.isSome || tag?.isSome then
            some (r.emit (.scalar anchor? ⟨"", .plain, scalarTag tag?⟩))
          else none
        | .scalar text style :: _ =>
          some (r.next.emit (.scalar anchor? ⟨text, style, scalarTag tag?⟩))
        | .flowSequenceStart :: _ =>
          readFlowItems handles fuel true (r.next.emit (.sequenceStart anchor?))
        | .flowMappingStart :: _ =>
          readFlowMembers handles fuel true (r.next.emit (.mappingStart anchor?))
        | token :: _ =>
          if block && token = .blockSequenceStart then
            readBlockItems handles fuel (r.next.emit (.sequenceStart anchor?))
          else if block && token = .blockMappingStart then
            readBlockMembers handles fuel (r.next.emit (.mappingStart anchor?))
          else if anchor?.isSome || tag?.isSome then
            some (r.emit (.scalar anchor? ⟨"", .plain, scalarTag tag?⟩))
          else none
        | [] => none

/-- Reads a node unless one of some tokens is next, before which it has been left out. -/
def readNodeUnless (handles : Handles) :
    (fuel : Nat) → (block indentless : Bool) → (ends : List Token) → EventReader →
      Option EventReader
  | 0, _, _, _, _ => none
  | fuel + 1, block, indentless, ends, r =>
    if r.atAny ends then some r.emitEmpty else readNode handles fuel block indentless r

/-- Reads the items of a block. -/
def readBlockItems (handles : Handles) : (fuel : Nat) → EventReader → Option EventReader
  | 0, _ => none
  | fuel + 1, r =>
    if r.atAny [.blockEntry] then
      match readNodeUnless handles fuel true false [.blockEntry, .blockEnd] r.next with
      | some r => readBlockItems handles fuel r
      | none => none
    else if r.atAny [.blockEnd] then some (r.next.emit .sequenceEnd)
    else none

/-- Reads the items of a sequence that has no block of its own. -/
def readIndentlessItems (handles : Handles) : (fuel : Nat) → EventReader → Option EventReader
  | 0, _ => none
  | fuel + 1, r =>
    if r.atAny [.blockEntry] then
      match readNodeUnless handles fuel true false [.blockEntry, .key, .value, .blockEnd]
        r.next with
      | some r => readIndentlessItems handles fuel r
      | none => none
    else some (r.emit .sequenceEnd)

/-- Reads the value behind a key; the colon may be missing. -/
def readMemberValue (handles : Handles) :
    (fuel : Nat) → (block : Bool) → (ends : List Token) → EventReader → Option EventReader
  | 0, _, _, _ => none
  | fuel + 1, block, ends, r =>
    if r.atAny [.value] then readNodeUnless handles fuel block block ends r.next
    else some r.emitEmpty

/-- Reads the members of a block. -/
def readBlockMembers (handles : Handles) : (fuel : Nat) → EventReader → Option EventReader
  | 0, _ => none
  | fuel + 1, r =>
    let ends : List Token := [.key, .value, .blockEnd]
    if r.atAny [.key] then
      match readNodeUnless handles fuel true true ends r.next with
      | none => none
      | some r =>
        match readMemberValue handles fuel true ends r with
        | some r => readBlockMembers handles fuel r
        | none => none
    else if r.atAny [.blockEnd] then some (r.next.emit .mappingEnd)
    else none

/-- Reads the items between brackets. An item may be a single member of a mapping. -/
def readFlowItems (handles : Handles) :
    (fuel : Nat) → (first : Bool) → EventReader → Option EventReader
  | 0, _, _ => none
  | fuel + 1, first, r =>
    let ends : List Token := [.value, .flowEntry, .flowSequenceEnd]
    if r.atAny [.flowSequenceEnd] then some (r.next.emit .sequenceEnd)
    else if !first && !r.atAny [.flowEntry] then none
    else
      let r := if first then r else r.next
      if r.atAny [.flowSequenceEnd] then some (r.next.emit .sequenceEnd)
      else if r.atAny [.key] then
        let r := r.next.emit (.mappingStart none)
        let key? := if r.atAny ends then some r.next.emitEmpty
          else readNode handles fuel false false r
        match key? with
        | none => none
        | some r =>
          match readMemberValue handles fuel false [.flowEntry, .flowSequenceEnd] r with
          | some r => readFlowItems handles fuel false (r.emit .mappingEnd)
          | none => none
      else
        match readNode handles fuel false false r with
        | some r => readFlowItems handles fuel false r
        | none => none

/-- Reads the members between braces. A node that is no key is one without a value. -/
def readFlowMembers (handles : Handles) :
    (fuel : Nat) → (first : Bool) → EventReader → Option EventReader
  | 0, _, _ => none
  | fuel + 1, first, r =>
    if r.atAny [.flowMappingEnd] then some (r.next.emit .mappingEnd)
    else if !first && !r.atAny [.flowEntry] then none
    else
      let r := if first then r else r.next
      if r.atAny [.flowMappingEnd] then some (r.next.emit .mappingEnd)
      else if r.atAny [.key] then
        match readNodeUnless handles fuel false false [.value, .flowEntry, .flowMappingEnd]
          r.next with
        | none => none
        | some r =>
          match readMemberValue handles fuel false [.flowEntry, .flowMappingEnd] r with
          | some r => readFlowMembers handles fuel false r
          | none => none
      else
        match readNode handles fuel false false r with
        | some r => readFlowMembers handles fuel false r.emitEmpty
        | none => none

end

/-- Steps that suffice to read any node: a token takes three of them at most. -/
def fuel (r : EventReader) : Nat :=
  3 * r.tokens.length + 3

end EventReader

/-- What directives declare. -/
structure Directives where
  hasVersion : Bool := false
  handles : Handles := []

/-- Reads directives. There is one version at most, of the first two that share a major number,
and each handle is declared once. -/
def readDirectives : Directives → List Token → Option (Directives × List Token)
  | d, .version major minor :: rest =>
    if !d.hasVersion && major = 1 && (minor = 1 || minor = 2) then
      readDirectives { d with hasVersion := true } rest
    else none
  | d, .tagHandle handle meaning :: rest =>
    if (d.handles.lookup handle).isNone then
      readDirectives { d with handles := (handle, meaning) :: d.handles } rest
    else none
  | d, rest => some (d, rest)

/-- Whether a token stands outside all nodes. -/
def Token.isOutside : Token → Bool
  | version .. | tagHandle .. | documentStart | documentEnd | streamEnd => true
  | _ => false

/-- Reads the node of a document. -/
def readContent (handles : Handles) (tokens : List Token) : Option EventReader :=
  let r : EventReader := { tokens }
  EventReader.readNode (handles ++ defaultHandles) r.fuel true false r

/-- Reads a document whose start may be marked. -/
def readDocument (tokens : List Token) : Option EventReader :=
  match tokens with
  | .version .. :: _ | .tagHandle .. :: _ | .documentStart :: _ =>
    match readDirectives {} tokens with
    | some (d, .documentStart :: rest) =>
      if rest.head?.any Token.isOutside then some (EventReader.emitEmpty { tokens := rest })
      else readContent d.handles rest
    | _ => none
  | _ => readContent [] tokens

/-- The events of the document in a stream, if there is one at most. -/
def Event.ofTokens? (tokens : List Token) : Option (List (Event String)) :=
  if tokens = [.streamEnd] then some []
  else
    match readDocument tokens with
    | some r =>
      if r.tokens.dropWhile (· = .documentEnd) = [.streamEnd] then some r.events.reverse else none
    | none => none

end ScriptAssist.Yaml
