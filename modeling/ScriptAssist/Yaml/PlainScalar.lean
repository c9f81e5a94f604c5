import ScriptAssist.Yaml.Gap

/-!
# Plain scalars

A plain scalar begins with a character that can begin nothing else, and goes on until a comment,
a colon before a gap, or a line that is not indented enough. Between brackets, indentation does
not matter, but brackets, braces and commas end it.
-/

namespace ScriptAssist.Yaml.PlainScalar

/-- Where a plain scalar stands. -/
structure Place where
  /-- Whether it stands between brackets. -/
  inFlow : Bool
  /-- The column from which on lines belong to it. -/
  margin : Nat
  deriving DecidableEq, Repr

/-- Characters that end a plain scalar between brackets. -/
def isFlowMark (ch : Char) : Bool :=
  ch = ',' || ch = '[' || ch = ']' || ch = '{' || ch = '}'

/-- Whether a colon is next, and something behind it that must not stand there between
brackets. -/
def atBadColon (c : Cursor) : Bool :=
  c.atChar ':' && (c.peek? 1).any fun ch => isFlowMark ch || ch = '?'

/-- Whether the next character ends a word of the scalar. -/
def atWordEnd (place : Place) (c : Cursor) : Bool :=
  c.gapAt 0 || (c.atChar ':' && c.gapAt 1) || (place.inFlow && c.meets isFlowMark)

/-- Reads a word. `passed` holds the characters behind, last one first. -/
def readWord (place : Place) :
    (fuel : Nat) → (passed : List Char) → Cursor → Option (List Char × Cursor)
  | 0, _, _ => none
  | fuel + 1, passed, c =>
    if place.inFlow && atBadColon c then none
    else if atWordEnd place c then some (passed, c)
    else readWord place fuel (c.rest.take 1 ++ passed) c.next

/-- Reads words and the gaps between them. The last gap is not part of the scalar; whether it is
broken decides if a key may come next. -/
def readWords (place : Place) :
    (fuel : Nat) → (passed : List Char) → (gap : Gap) → Cursor →
      Option (List Char × Bool × Cursor)
  | 0, _, _, _ => none
  | fuel + 1, passed, gap, c =>
    let done := some (passed, gap.isBroken, c)
    if c.atDocumentMarker || c.atChar '#' then done
    else
      match readWord place c.fuel [] c with
      | none => none
      | some ([], _) => done
      | some (word, c) =>
        let passed := word ++ gap.text.reverse ++ passed
        match Gap.read place.margin c with
        | none => none
        | some (gap, behind) =>
          if gap = .blanks [] then some (passed, false, behind)
          else if !place.inFlow && behind.column < place.margin then
            some (passed, gap.isBroken, behind)
          else readWords place fuel passed gap behind

/-- Reads a plain scalar: its text, whether lines were broken behind it, and the cursor behind. -/
def read (place : Place) (c : Cursor) : Option (String × Bool × Cursor) :=
  (readWords place c.fuel [] (.blanks []) c).map fun (passed, broken, c) =>
    (String.ofList passed.reverse, broken, c)

end ScriptAssist.Yaml.PlainScalar
