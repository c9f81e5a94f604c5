import ScriptAssist.Text.Cursor

/-!
# Positions

Editors name a place in a document by a line and a column, both from zero, and count columns in
UTF-16 code units. `offsetAt` turns such a place into a byte offset. A line past the end of the
document means the end of the text, and a column past the end of its line means the end of that
line.
-/

namespace ScriptAssist

/-- A line and a column. Both are 32-bit words. -/
structure Position where
  line : UInt32
  character : UInt32
  deriving DecidableEq, Repr

namespace Text

/-- The number of UTF-16 code units of a character. -/
def units16 (c : Char) : UInt32 :=
  if c.toNat < 0x10000 then 1 else 2

/-- Walks along a line that starts at `offset`, until `column` units are behind or the line
ends. The units are counted in a 32-bit word, as the column is. -/
def columnOffset (column : UInt32) : UInt32 → Nat → List Char → Nat
  | _, offset, [] => offset
  | units, offset, c :: rest =>
    if c = '\n' ∨ column ≤ units then offset
    else columnOffset column (units + units16 c) (offset + c.utf8Size) rest

/-- Walks over `lines` line feeds, then along the line reached. -/
def lineOffset (column : UInt32) : Nat → Nat → List Char → Nat
  | 0, offset, s => columnOffset column 0 offset s
  | _ + 1, offset, [] => offset
  | lines + 1, offset, c :: rest =>
    lineOffset column (if c = '\n' then lines else lines + 1) (offset + c.utf8Size) rest

/-- The byte offset of a position. -/
def offsetAt (s : List Char) (position : Position) : Nat :=
  lineOffset position.character position.line.toNat 0 s

end Text

end ScriptAssist
