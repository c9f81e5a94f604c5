import ScriptAssist.Yaml.Gap

/-!
# Quoted scalars

Between single quotes all characters stand for themselves, and a quote is written twice. Between
double quotes a backslash introduces escapes; at the end of a line it takes the line break away.
-/

namespace ScriptAssist.Yaml.QuotedScalar

/-- Characters that stand for others behind a backslash. -/
def shortEscapes : List (Char × Char) :=
  [('0', '\x00'), ('a', '\x07'), ('b', '\x08'), ('t', '\t'), ('\t', '\t'), ('n', '\n'),
   ('v', '\x0b'), ('f', '\x0c'), ('r', '\r'), ('e', '\x1b'), (' ', ' '), ('"', '"'), ('/', '/'),
   ('\\', '\\'), ('N', '\u0085'), ('_', '\u00a0'), ('L', '\u2028'), ('P', '\u2029')]

/-- Characters that announce a code point behind a backslash, and how many digits it has. -/
def codeEscapes : List (Char × Nat) :=
  [('x', 2), ('u', 4), ('U', 8)]

/-- The value of a hexadecimal digit. -/
def hexDigit? (c : Char) : Option Nat :=
  if c.isDigit then some (c.toNat - '0'.toNat)
  else if 'a' ≤ c ∧ c ≤ 'f' then some (c.toNat - 'a'.toNat + 10)
  else if 'A' ≤ c ∧ c ≤ 'F' then some (c.toNat - 'A'.toNat + 10)
  else none

/-- The value of hexadecimal digits. -/
def hexValue? (digits : List Char) : Option Nat :=
  digits.foldlM (fun value c => (hexDigit? c).map (value * 16 + ·)) 0

/-- Reads what stands behind a backslash. -/
def readEscape (c : Cursor) : Option (Char × Cursor) := do
  let kind ← c.rest.head?
  match shortEscapes.lookup kind, codeEscapes.lookup kind with
  | some ch, _ => some (ch, c.next)
  | none, none => none
  | none, some size =>
    let digits := c.next.rest.take size
    let value ← hexValue? digits
    if digits.length = size ∧ value.isValidChar then some (Char.ofNat value, c.next.skip size)
    else none

/-- Reads up to the closing quote. `passed` holds the characters behind, last one first. -/
def readUntil (quote : Char) :
    (fuel : Nat) → (passed : List Char) → Cursor → Option (List Char × Cursor)
  | 0, _, _ => none
  | fuel + 1, passed, c =>
    if c.atDocumentMarker then none
    else
      match c.rest with
      | [] => none
      | ch :: _ =>
        if ch = quote then
          if quote = '\'' && c.next.atChar '\'' then
            readUntil quote fuel ('\'' :: passed) (c.skip 2)
          else some (passed, c.next)
        else if c.gapAt 0 then
          match Gap.read 0 c with
          | none => none
          | some (gap, c) => readUntil quote fuel (gap.text.reverse ++ passed) c
        else if quote = '"' && ch = '\\' then
          match c.next.lineBreak? with
          | some (_, behind) =>
            match Gap.readOn 0 behind.fuel (.breaks none []) behind with
            | none => none
            | some (gap, c) => readUntil quote fuel (gap.text.reverse ++ passed) c
          | none =>
            match readEscape c.next with
            | none => none
            | some (escaped, c) => readUntil quote fuel (escaped :: passed) c
        else readUntil quote fuel (ch :: passed) c.next

/-- Reads a quoted scalar from its opening quote on. -/
def read (quote : Char) (c : Cursor) : Option (String × Cursor) :=
  (readUntil quote c.fuel [] c.next).map fun (passed, c) => (String.ofList passed.reverse, c)

end ScriptAssist.Yaml.QuotedScalar
