import ScriptAssist.Yaml.Scalar

/-!
# Tokens

What YAML texts are made of. Blocks have no brackets in the text; the tokens for their starts and
ends, and those for keys, come from the indentation and from colons.
-/

namespace ScriptAssist.Yaml

/-- A tag as it is written: a handle that is declared elsewhere, and what stands behind it. The
handle is empty if the tag is given in full. -/
structure TagName where
  handle : List Char
  suffix : List Char
  deriving DecidableEq, Repr

/-- A token. -/
inductive Token where
  | streamEnd
  /-- Says what version of YAML the document is written in. -/
  | version (major minor : Nat)
  /-- Declares a handle and what it stands for. -/
  | tagHandle (handle : List Char) (meaning : List Char)
  | documentStart
  | documentEnd
  | blockSequenceStart
  | blockMappingStart
  | blockEnd
  | flowSequenceStart
  | flowSequenceEnd
  | flowMappingStart
  | flowMappingEnd
  | blockEntry
  | flowEntry
  | key
  | value
  | alias (name : String)
  | anchor (name : String)
  | tag (name : TagName)
  | scalar (text : String) (style : ScalarStyle)
  deriving DecidableEq, Repr

end ScriptAssist.Yaml
