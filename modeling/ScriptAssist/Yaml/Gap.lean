import ScriptAssist.Yaml.Cursor

/-!
# Gaps between words

Inside a scalar that may go on over several lines, blanks and line breaks form gaps. A gap within
a line stands for itself. A gap with line breaks loses its blanks, and its first line feed: that
is a space if it is the only break, and is left out otherwise.
-/

namespace ScriptAssist.Yaml

/-- What stands between two words. -/
inductive Gap where
  /-- Blanks within a line, last one first. -/
  | blanks (passed : List Char)
  /-- Line breaks: the first one, unless it is not to count, and the others, last one first. -/
  | breaks (first? : Option Char) (others : List Char)
  deriving DecidableEq, Repr

namespace Gap

/-- What a gap stands for. -/
def text : Gap → List Char
  | blanks passed => passed.reverse
  | breaks (some '\n') [] => [' ']
  | breaks (some '\n') others => others.reverse
  | breaks first? others => first?.toList ++ others.reverse

/-- Whether a gap goes over the end of a line. -/
def isBroken : Gap → Bool
  | blanks _ => false
  | breaks _ _ => true

/-- Reads on in a gap. Behind a line break no tab may stand before column `margin`. -/
def readOn (margin : Nat) : (fuel : Nat) → Gap → Cursor → Option (Gap × Cursor)
  | 0, _, _ => none
  | fuel + 1, gap, c =>
    match c.lineBreak?, gap with
    | some (ch, c), blanks _ => readOn margin fuel (breaks (some ch) []) c
    | some (ch, c), breaks first? others => readOn margin fuel (breaks first? (ch :: others)) c
    | none, blanks passed =>
      match c.rest with
      | ch :: _ =>
        if isBlank ch then readOn margin fuel (blanks (ch :: passed)) c.next else some (gap, c)
      | [] => some (gap, c)
    | none, breaks _ _ =>
      if c.atChar '\t' && c.column < margin then none
      else if c.meets isBlank then readOn margin fuel gap c.next
      else some (gap, c)

/-- Reads the gap at a cursor; there may be none. -/
def read (margin : Nat) (c : Cursor) : Option (Gap × Cursor) :=
  readOn margin c.fuel (blanks []) c

end Gap

end ScriptAssist.Yaml
