/-!
# Scalars

A scalar is a text, together with how it was written and what type it was said to have.
-/

namespace ScriptAssist.Yaml

/-- How a scalar is written. -/
inductive ScalarStyle where
  | plain
  | singleQuoted
  | doubleQuoted
  | literal
  | folded
  deriving DecidableEq, Repr

/-- A scalar. -/
structure Scalar where
  text : String
  style : ScalarStyle
  /-- The type it is tagged with; bytes outside ASCII stand for themselves, one by one. -/
  tag? : Option (List Char) := none
  deriving DecidableEq, Repr

end ScriptAssist.Yaml
