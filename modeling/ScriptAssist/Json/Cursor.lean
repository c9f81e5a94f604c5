import ScriptAssist.Json.Fault

/-!
# Reading position

JSON texts are read by functions from a cursor to a result and the cursor behind it. A cursor is
the rest of the text together with the number of bytes behind it. Faults carry such a number;
where it points is part of what a fault says, so it is chosen per fault: at the offending byte
(`failHere`), one past it where the byte has only been looked at (`failPast`), or at a given
index.
-/

namespace ScriptAssist.Json

/-- The rest of a text, and the number of bytes before it. -/
structure Cursor where
  rest : List Char
  index : Nat
  deriving DecidableEq, Repr

/-- A cause and the byte index to which it belongs, if any. -/
structure Failure where
  cause : Cause
  index? : Option Nat
  deriving DecidableEq, Repr

/-- A value with the cursor behind it, or a failure. -/
abbrev Result (α : Type) := Except Failure (α × Cursor)

/-- Goes on from a result, unless it is a failure. -/
def andThen {α β : Type} (result : Result α) (next : α → Cursor → Result β) : Result β :=
  match result with
  | .ok (a, c) => next a c
  | .error failure => .error failure

/-- The result with another value. -/
def yielding {α β : Type} (result : Result α) (f : α → β) : Result β :=
  andThen result fun a c => .ok (f a, c)

/-- Reads a value that starts at a cursor. -/
abbrev Reader (α : Type) := Cursor → Result α

/-- The failure of a breach at a byte index. -/
def breachAt {α : Type} (b : Breach) (index : Nat) : Except Failure α :=
  .error ⟨.breach b, some index⟩

/-- The failure of a mismatch at a byte index. -/
def mismatchAt {α : Type} (m : Mismatch) (index : Nat) : Except Failure α :=
  .error ⟨.mismatch m, some index⟩

/-- Whether a character may stand between tokens. -/
def isSpace (c : Char) : Bool :=
  c = ' ' || c = '\n' || c = '\t' || c = '\r'

namespace Cursor

/-- The start of a text. -/
def start (text : List Char) : Cursor :=
  ⟨text, 0⟩

/-- The cursor behind the next character, which the caller has looked at. -/
def next (c : Cursor) : Cursor :=
  match c.rest with
  | [] => c
  | ch :: rest => ⟨rest, c.index + ch.utf8Size⟩

/-- The byte index at the cursor and one past it, but never past the end of the text. -/
def pastIndex (c : Cursor) : Nat :=
  if c.rest.isEmpty then c.index else c.index + 1

/-- Fails at the cursor. -/
def failHere {α : Type} (c : Cursor) (b : Breach) : Except Failure α :=
  breachAt b c.index

/-- Fails one byte past the cursor. -/
def failPast {α : Type} (c : Cursor) (b : Breach) : Except Failure α :=
  breachAt b c.pastIndex

/-- Walks over spaces. -/
def skipFrom : List Char → Nat → Cursor
  | [], index => ⟨[], index⟩
  | ch :: rest, index => if isSpace ch then skipFrom rest (index + 1) else ⟨ch :: rest, index⟩

/-- The cursor behind the spaces it stands before. -/
def skipSpaces (c : Cursor) : Cursor :=
  skipFrom c.rest c.index

/-- Walks over ASCII digits. -/
def skipDigitsFrom : List Char → Nat → Cursor
  | [], index => ⟨[], index⟩
  | ch :: rest, index =>
    if ch.isDigit then skipDigitsFrom rest (index + 1) else ⟨ch :: rest, index⟩

/-- The cursor behind the digits it stands before. -/
def skipDigits (c : Cursor) : Cursor :=
  skipDigitsFrom c.rest c.index

/-- Whether an ASCII digit is next. -/
def atDigit (c : Cursor) : Bool :=
  match c.rest with
  | ch :: _ => ch.isDigit
  | [] => false

/-- Whether a given character is next. -/
def atChar (c : Cursor) (ch : Char) : Bool :=
  c.rest.head? == some ch

end Cursor

/-- Reads the rest of a fixed word. -/
def readWord : List Char → Cursor → Except Failure Cursor
  | [], c => .ok c
  | expected :: word, c =>
    match c.rest with
    | [] => c.failHere .endInValue
    | ch :: _ => if ch = expected then readWord word c.next else breachAt .notAWord (c.index + 1)

end ScriptAssist.Json
