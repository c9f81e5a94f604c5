import ScriptAssist.Json.Value

/-!
# JSON text of values

Values are printed without blanks. In texts only the quote, the backslash and control characters
are escaped; all other characters stand for themselves.
-/

namespace ScriptAssist.Json

/-- The lower-case hexadecimal digits of a control character. -/
def controlHex (c : Char) : List Char :=
  [(c.toNat / 16).digitChar, (c.toNat % 16).digitChar]

/-- A character inside a printed text. -/
def escapeChar (c : Char) : List Char :=
  if c = '"' then ['\\', '"']
  else if c = '\\' then ['\\', '\\']
  else if c = '\x08' then ['\\', 'b']
  else if c = '\t' then ['\\', 't']
  else if c = '\n' then ['\\', 'n']
  else if c = '\x0c' then ['\\', 'f']
  else if c = '\r' then ['\\', 'r']
  else if c.toNat < 0x20 then ['\\', 'u', '0', '0'] ++ controlHex c
  else [c]

/-- A text in quotes. -/
def renderText (s : String) : String :=
  String.ofList ('"' :: s.toList.flatMap escapeChar ++ ['"'])

/-- The text of a number. -/
def Number.render : Number → String
  | int n => toString n
  | real x => x.text

namespace Value

mutual

/-- The text of a value. -/
def render : Value → String
  | null => "null"
  | bool true => "true"
  | bool false => "false"
  | number n => n.render
  | text s => renderText s
  | array items => "[" ++ renderItems items ++ "]"
  | object members => r"{" ++ renderMembers members ++ r"}"

/-- The items of an array, with commas between them. -/
def renderItems : List Value → String
  | [] => ""
  | [v] => v.render
  | v :: rest => v.render ++ "," ++ renderItems rest

/-- The members of an object, with commas between them. -/
def renderMembers : List (String × Value) → String
  | [] => ""
  | [(key, v)] => renderText key ++ ":" ++ v.render
  | (key, v) :: rest => renderText key ++ ":" ++ v.render ++ "," ++ renderMembers rest

end

end Value

end ScriptAssist.Json
