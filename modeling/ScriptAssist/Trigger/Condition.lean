import ScriptAssist.Text.Blank
import ScriptAssist.Trigger.Query

/-!
# Conditions

A condition is a test of the text before the cursor. Most look at the cursor's line alone. The
loose one, `documentContains`, looks at everything before the cursor, so it stays met once the
text it looks for has been passed.
-/

namespace ScriptAssist

/-- A test of the text before the cursor. -/
inductive Condition where
  /-- The line ends with the text. -/
  | lineEndsWith (literal : String)
  /-- The line, without blanks at its ends, ends with the text. -/
  | trimmedLineEndsWith (literal : String)
  /-- The text stands somewhere before the cursor. -/
  | documentContains (literal : String)
  /-- No test. -/
  | always
  deriving DecidableEq, Repr

namespace Condition

/-- Whether a query meets the condition. -/
def holds : Condition → Query → Bool
  | lineEndsWith literal, q => literal.toList.isSuffixOf q.line
  | trimmedLineEndsWith literal, q => literal.toList.isSuffixOf (Text.trim q.line)
  | documentContains literal, q => Text.occursIn literal.toList q.before
  | always, _ => true

/-- The name under which a condition is written. -/
def name : Condition → String
  | lineEndsWith _ => "line_suffix"
  | trimmedLineEndsWith _ => "trimmed_line_suffix"
  | documentContains _ => "document_contains"
  | always => "always"

/-- The text that a condition looks for. -/
def literal? : Condition → Option String
  | lineEndsWith literal | trimmedLineEndsWith literal | documentContains literal => some literal
  | always => none

end Condition

end ScriptAssist
