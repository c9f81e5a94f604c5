import ScriptAssist.Text.Cursor

/-!
# Queries

A query is all that a completion may depend on: the text before the cursor, and whether the user
asked for suggestions or typed a character that brings them up. What stands behind the cursor is
not part of it.
-/

namespace ScriptAssist

/-- What brought the query about. -/
inductive Trigger where
  /-- An explicit request. -/
  | invoked
  /-- A character was typed. -/
  | typed (c : Char)
  deriving DecidableEq, Repr

/-- The character typed, if any. -/
def Trigger.char? : Trigger → Option Char
  | invoked => none
  | typed c => some c

/-- The text before the cursor, and what brought the query about. -/
structure Query where
  before : List Char
  trigger : Trigger
  deriving DecidableEq, Repr

namespace Query

/-- The query at a byte offset of a text, which may lie anywhere. -/
def ofCursor (text : List Char) (offset : Nat) (trigger : Trigger) : Query :=
  ⟨Text.before offset text, trigger⟩

/-- The cursor's line, up to the cursor. -/
def line (q : Query) : List Char :=
  Text.lastLine q.before

/-- The cursor's byte offset. -/
def offset (q : Query) : Nat :=
  Text.utf8Size q.before

end Query

end ScriptAssist
