import ScriptAssist.Json.Value
import ScriptAssist.Text.Cursor
import ScriptAssist.Text.Quoted

/-!
# Faults of JSON texts

A text can break the grammar of JSON, or be JSON but not of the shape that is asked for. Either
kind of fault is a cause with, most often, a place. Places are lines and columns from one and
zero; columns count bytes.
-/

namespace ScriptAssist.Json

/-- Breaches of the grammar. -/
inductive Breach where
  | endInValue
  | endInList
  | endInObject
  | endInText
  | notAWord
  | notAValue
  | noColon
  | noListMark
  | noObjectMark
  | trailingComma
  | trailingCharacters
  | keyNotText
  | controlCharacter
  | badEscape
  | badNumber
  | outOfRange
  | loneSurrogate
  | unpairedSurrogate
  | tooDeep
  deriving DecidableEq, Repr

/-- The breach in words. -/
def Breach.message : Breach → String
  | endInValue => "EOF while parsing a value"
  | endInList => "EOF while parsing a list"
  | endInObject => "EOF while parsing an object"
  | endInText => "EOF while parsing a string"
  | notAWord => "expected ident"
  | notAValue => "expected value"
  | noColon => "expected `:`"
  | noListMark => "expected `,` or `]`"
  | noObjectMark => r"expected `,` or `}`"
  | trailingComma => "trailing comma"
  | trailingCharacters => "trailing characters"
  | keyNotText => "key must be a string"
  | controlCharacter => "control character (\\u0000-\\u001F) found while parsing a string"
  | badEscape => "invalid escape"
  | badNumber => "invalid number"
  | outOfRange => "number out of range"
  | loneSurrogate => "lone leading surrogate in hex escape"
  | unpairedSurrogate => "unexpected end of hex escape"
  | tooDeep => "recursion limit exceeded"

/-- What was found where something else was asked for. -/
inductive Found where
  | null
  | bool (b : Bool)
  | number (n : Number)
  | text (s : String)
  | sequence
  | map
  | bareName
  deriving DecidableEq, Repr

/-- What a value is. -/
def Value.found : Value → Found
  | .null => .null
  | .bool b => .bool b
  | .number n => .number n
  | .text s => .text s
  | .array _ => .sequence
  | .object _ => .map

/-- What was found, in words. -/
def Found.message : Found → String
  | null => "null"
  | bool b => s!"boolean `{b}`"
  | number (.int n) => s!"integer `{n}`"
  | number (.real x) => s!"floating point `{x.text}`"
  | text s => "string " ++ Text.quoted s
  | sequence => "sequence"
  | map => "map"
  | bareName => "unit variant"

/-- Ways in which a value is not of the shape asked for. -/
inductive Mismatch where
  | wrongType (found : Found) (expected : String)
  | wrongValue (found : Found) (expected : String)
  | missingField (name : String)
  | duplicateField (name : String)
  | unknownName (name : String) (known : List String)
  | wrongLength (length : Nat) (expected : String)
  deriving DecidableEq, Repr

/-- A name between backticks. -/
def ticked (s : String) : String :=
  "`" ++ s ++ "`"

/-- A choice of names. Two names are joined by "or"; a longer choice is a list. -/
def choiceOf : List String → String
  | [a, b] => ticked a ++ " or " ++ ticked b
  | names => "one of " ++ ", ".intercalate (names.map ticked)

/-- The mismatch in words. -/
def Mismatch.message : Mismatch → String
  | wrongType found expected => s!"invalid type: {found.message}, expected {expected}"
  | wrongValue found expected => s!"invalid value: {found.message}, expected {expected}"
  | missingField name => s!"missing field {ticked name}"
  | duplicateField name => s!"duplicate field {ticked name}"
  | unknownName name known => s!"unknown variant {ticked name}, expected {choiceOf known}"
  | wrongLength length expected => s!"invalid length {length}, expected {expected}"

/-- Why a text was not read. -/
inductive Cause where
  | breach (b : Breach)
  | mismatch (m : Mismatch)
  deriving DecidableEq, Repr

/-- The cause in words. -/
def Cause.message : Cause → String
  | breach b => b.message
  | mismatch m => m.message

/-- A place in a text: lines from one, columns from zero. -/
structure Place where
  line : Nat
  column : Nat
  deriving DecidableEq, Repr

namespace Place

/-- Walks to a byte index. `lineStart` is the index at which the current line begins, and
`offset` that of the next character. -/
def walk (index : Nat) : (line lineStart offset : Nat) → List Char → Place
  | line, lineStart, _, [] => ⟨line, index - lineStart⟩
  | line, lineStart, offset, c :: rest =>
    if index ≤ offset then ⟨line, index - lineStart⟩
    else if c = '\n' then walk index (line + 1) (offset + 1) (offset + 1) rest
    else walk index line lineStart (offset + c.utf8Size) rest

/-- The place of a byte index: the line feeds before it, and the bytes since the last. -/
def ofIndex (text : List Char) (index : Nat) : Place :=
  walk index 1 0 0 text

end Place

/-- Why and where a text was not read. -/
structure Fault where
  cause : Cause
  place? : Option Place
  deriving DecidableEq, Repr

/-- The fault in words. -/
def Fault.message (fault : Fault) : String :=
  match fault.place? with
  | none => fault.cause.message
  | some place => fault.cause.message ++ s!" at line {place.line} column {place.column}"

end ScriptAssist.Json
