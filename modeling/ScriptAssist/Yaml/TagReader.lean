import ScriptAssist.Yaml.QuotedScalar
import ScriptAssist.Yaml.Token

/-!
# Reading tags and directives

A tag begins with an exclamation mark. What follows is an address, in which bytes can be written
as a percent sign and two hexadecimal digits. A directive stands on a line of its own, behind a
percent sign.
-/

namespace ScriptAssist.Yaml

/-- Whether a character may stand in a tag. Brackets and commas may do so between angle brackets
only. -/
def isTagChar (verbatim : Bool) (ch : Char) : Bool :=
  isNameChar ch || [';', '/', '?', ':', '@', '&', '=', '+', '$', '.', '%', '!', '~', '*', '\'',
    '(', ')'].contains ch || (verbatim && [',', '[', ']'].contains ch)

/-- Reads a byte that is written with a percent sign. -/
def readEscapedByte (c : Cursor) : Option (Nat × Cursor) :=
  if c.atChar '%' then
    match c.peek? 1, c.peek? 2 with
    | some a, some b => do
      return ((← QuotedScalar.hexDigit? a) * 16 + (← QuotedScalar.hexDigit? b), c.skip 3)
    | _, _ => none
  else none

/-- The number of bytes of a character, by the first of them. -/
def characterWidth (first : Nat) : Option Nat :=
  if first < 0x80 then some 1
  else if 0xC0 ≤ first ∧ first < 0xE0 then some 2
  else if 0xE0 ≤ first ∧ first < 0xF0 then some 3
  else if 0xF0 ≤ first ∧ first < 0xF8 then some 4
  else none

/-- Reads the bytes of a character behind the first. -/
def readTailBytes : Nat → Cursor → Option (List Char × Cursor)
  | 0, c => some ([], c)
  | count + 1, c => do
    let (byte, c) ← readEscapedByte c
    if 0x80 ≤ byte ∧ byte < 0xC0 then
      let (bytes, c) ← readTailBytes count c
      return (Char.ofNat byte :: bytes, c)
    else none

/-- Reads a character that is written byte by byte. -/
def readEscapedChar (c : Cursor) : Option (List Char × Cursor) := do
  let (first, c) ← readEscapedByte c
  let width ← characterWidth first
  let (bytes, c) ← readTailBytes (width - 1) c
  return (Char.ofNat first :: bytes, c)

/-- Reads the characters of a tag. -/
def readTagChars (verbatim : Bool) : (fuel : Nat) → Cursor → Option (List Char × Cursor)
  | 0, _ => none
  | fuel + 1, c =>
    match c.rest with
    | ch :: _ =>
      if isTagChar verbatim ch then do
        let (read, c) ← if ch = '%' then readEscapedChar c else some ([ch], c.next)
        let (others, c) ← readTagChars verbatim fuel c
        return (read ++ others, c)
      else some ([], c)
    | [] => some ([], c)

/-- Reads what stands behind `head`; together they must not be empty. An exclamation mark at the
start of `head` is dropped. -/
def readAddress (verbatim : Bool) (head : List Char) (c : Cursor) :
    Option (List Char × Cursor) := do
  let (read, c) ← readTagChars verbatim c.fuel c
  if head.isEmpty && read.isEmpty then none else return (head.drop 1 ++ read, c)

/-- Reads a handle: an exclamation mark, and maybe a name and another one. -/
def readHandle (c : Cursor) : Option (List Char × Cursor) :=
  if c.atChar '!' then
    let (name, behind) := c.next.span isNameChar
    if behind.atChar '!' then some ('!' :: name ++ ['!'], behind.next)
    else some ('!' :: name, behind)
  else none

/-- Whether what `readHandle` gave is closed by an exclamation mark of its own. -/
def isClosedHandle (handle : List Char) : Bool :=
  2 ≤ handle.length && handle.getLast? == some '!'

/-- Reads a tag that is given in full, between angle brackets. -/
def readVerbatimTag (c : Cursor) : Option (TagName × Cursor) := do
  let (suffix, c) ← readAddress true [] (c.skip 2)
  if c.atChar '>' then return (⟨[], suffix⟩, c.next) else none

/-- Reads a tag with a handle. A lone exclamation mark is a tag by itself. -/
def readShortTag (c : Cursor) : Option (TagName × Cursor) := do
  let (handle, c) ← readHandle c
  if isClosedHandle handle then
    let (suffix, c) ← readAddress false [] c
    return (⟨handle, suffix⟩, c)
  else
    let (suffix, c) ← readAddress false handle c
    return (if suffix.isEmpty then ⟨[], ['!']⟩ else ⟨['!'], suffix⟩, c)

/-- Reads a tag. There must be a gap behind it, or a comma if it stands between brackets. -/
def readTag (inFlow : Bool) (c : Cursor) : Option (Token × Cursor) := do
  let (name, c) ← if c.next.atChar '<' then readVerbatimTag c else readShortTag c
  if c.gapAt 0 || (inFlow && c.atChar ',') then return (.tag name, c) else none

/-- Reads a number of nine digits at most. -/
def readVersionNumber (c : Cursor) : Option (Nat × Cursor) :=
  let (digits, c) := c.span Char.isDigit
  if digits.isEmpty || 9 < digits.length then none
  else some (digits.foldl (fun n ch => n * 10 + (ch.toNat - '0'.toNat)) 0, c)

/-- Reads a version behind the name of its directive. -/
def readVersion (c : Cursor) : Option (Token × Cursor) := do
  let (major, c) ← readVersionNumber c.skipBlanks
  if c.atChar '.' then
    let (minor, c) ← readVersionNumber c.next
    return (.version major minor, c)
  else none

/-- Reads the declaration of a handle behind the name of its directive. -/
def readTagHandle (c : Cursor) : Option (Token × Cursor) := do
  let (handle, c) ← readHandle c.skipBlanks
  if (handle = ['!'] || isClosedHandle handle) && c.meets isBlank then
    let (meaning, c) ← readAddress true [] c.skipBlanks
    if c.gapAt 0 then return (.tagHandle handle meaning, c) else none
  else none

/-- Reads a directive and the rest of its line. -/
def readDirective (c : Cursor) : Option (Token × Cursor) := do
  let (name, c) := c.next.span isNameChar
  if !c.gapAt 0 then none
  else
    let (token, c) ← if name = "YAML".toList then readVersion c
      else if name = "TAG".toList then readTagHandle c
      else none
    return (token, ← c.skipLineRest?)

/-- Whether a character may stand right behind the name of an anchor. -/
def endsAnchor (ch : Char) : Bool :=
  isBlank ch || isBreak ch || ['?', ':', ',', ']', '}', '%', '@', '\x60'].contains ch

/-- Reads the name of an anchor or an alias, behind its mark. -/
def readAnchorName (c : Cursor) : Option (String × Cursor) :=
  let (name, behind) := c.next.span isNameChar
  if name.isEmpty || !behind.rest.head?.all endsAnchor then none
  else some (String.ofList name, behind)

end ScriptAssist.Yaml
