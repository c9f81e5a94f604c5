import ScriptAssist.Text.Cursor

/-!
# Reading position in YAML texts

A cursor is the rest of a text together with its place: columns decide what belongs to what, and
lines and distances decide how far a key may reach. Columns count characters, and distances the
bytes of their UTF-8 form. Five characters, and one pair of them, break lines.
-/

namespace ScriptAssist.Yaml

/-- Whether a character may stand in a YAML text. -/
def isAllowed (c : Char) : Bool :=
  let n := c.toNat
  n = 0x9 || n = 0xA || n = 0xD || (0x20 ≤ n && n ≤ 0x7E) || n = 0x85 ||
    (0xA0 ≤ n && n ≤ 0xFFFD) || 0x10000 ≤ n

/-- The mark that may stand at the start of a line. It means nothing, but takes up a column, so that
the line counts as indented by one. -/
def byteOrderMark : Char := '\uFEFF'

/-- The line breaks of Unicode that keep their own character in scalars. -/
def isOwnBreak (c : Char) : Bool :=
  c = '\u2028' || c = '\u2029'

/-- Whether a character breaks a line. -/
def isBreak (c : Char) : Bool :=
  c = '\n' || c = '\r' || c = '\u0085' || isOwnBreak c

/-- A space or a tab. -/
def isBlank (c : Char) : Bool :=
  c = ' ' || c = '\t'

/-- Whether a character may stand in a name. -/
def isNameChar (c : Char) : Bool :=
  c.isAlphanum || c = '_' || c = '-'

/-- The rest of a text, and its place. -/
structure Cursor where
  rest : List Char
  /-- The number of bytes before the cursor. -/
  index : Nat := 0
  line : Nat := 0
  column : Nat := 0
  deriving DecidableEq, Repr

namespace Cursor

/-- Steps that suffice for any walk over the rest of a text. -/
def fuel (c : Cursor) : Nat :=
  c.rest.length + 1

/-- The cursor behind the next character, which breaks no line. -/
def next (c : Cursor) : Cursor :=
  match c.rest with
  | [] => c
  | ch :: rest => { c with rest, index := c.index + ch.utf8Size, column := c.column + 1 }

/-- The cursor behind a number of characters, none of which breaks a line. -/
def skip : Nat → Cursor → Cursor
  | 0, c => c
  | n + 1, c => skip n c.next

/-- The cursor behind a line break of a number of characters. -/
def newLine (c : Cursor) (size : Nat) : Cursor :=
  ⟨c.rest.drop size, c.index + Text.utf8Size (c.rest.take size), c.line + 1, 0⟩

/-- The line break at the cursor, as it stands in a scalar, and the cursor behind it. -/
def lineBreak? (c : Cursor) : Option (Char × Cursor) :=
  match c.rest with
  | [] => none
  | ch :: rest =>
    if ch = '\r' && rest.head? == some '\n' then some ('\n', c.newLine 2)
    else if isOwnBreak ch then some (ch, c.newLine 1)
    else if isBreak ch then some ('\n', c.newLine 1)
    else none

/-- The cursor behind the line break that is next, if there is one. -/
def skipBreak (c : Cursor) : Cursor :=
  match c.lineBreak? with
  | some (_, c) => c
  | none => c

/-- The character at a distance. -/
def peek? (c : Cursor) (distance : Nat) : Option Char :=
  c.rest[distance]?

/-- Whether the next character passes a test. -/
def meets (c : Cursor) (test : Char → Bool) : Bool :=
  c.rest.head?.any test

/-- Whether a given character is next. -/
def atChar (c : Cursor) (ch : Char) : Bool :=
  c.meets (· = ch)

/-- Whether the text ends at a distance, or a blank or line break stands there. -/
def gapAt (c : Cursor) (distance : Nat) : Bool :=
  match c.peek? distance with
  | none => true
  | some ch => isBlank ch || isBreak ch

/-- Whether the line ends here. -/
def atLineEnd (c : Cursor) : Bool :=
  c.rest.isEmpty || c.meets isBreak

/-- Walks over characters that pass a test; they break no line. `passed` holds those behind, last
one first. -/
def spanFrom (test : Char → Bool) (line : Nat) :
    (passed : List Char) → (index column : Nat) → List Char → List Char × Cursor
  | passed, index, column, [] => (passed.reverse, ⟨[], index, line, column⟩)
  | passed, index, column, ch :: rest =>
    if test ch then spanFrom test line (ch :: passed) (index + ch.utf8Size) (column + 1) rest
    else (passed.reverse, ⟨ch :: rest, index, line, column⟩)

/-- The characters from the cursor on that pass a test, and the cursor behind them. -/
def span (c : Cursor) (test : Char → Bool) : List Char × Cursor :=
  spanFrom test c.line [] c.index c.column c.rest

/-- The cursor behind the byte order mark that is next, if one starts the line. -/
def skipOrderMark (c : Cursor) : Cursor :=
  if c.column = 0 && c.atChar byteOrderMark then c.next else c

/-- The cursor behind the blanks that are next. -/
def skipBlanks (c : Cursor) : Cursor :=
  (c.span isBlank).2

/-- The cursor behind the comment that is next, if there is one. -/
def skipComment (c : Cursor) : Cursor :=
  if c.atChar '#' then (c.span (!isBreak ·)).2 else c

/-- The rest of a line that may hold blanks and a comment only: the cursor behind it, if so. -/
def skipLineRest? (c : Cursor) : Option Cursor :=
  let c := c.skipBlanks.skipComment
  if c.atLineEnd then some c.skipBreak else none

/-- Whether three times a given character stands at the start of a line, with a gap behind. -/
def atMarker (c : Cursor) (ch : Char) : Bool :=
  c.column = 0 && [ch, ch, ch].isPrefixOf c.rest && c.gapAt 3

/-- Whether the start or the end of a document is marked here. -/
def atDocumentMarker (c : Cursor) : Bool :=
  c.atMarker '-' || c.atMarker '.'

end Cursor

end ScriptAssist.Yaml
