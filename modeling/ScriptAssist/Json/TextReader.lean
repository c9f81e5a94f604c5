import ScriptAssist.Json.Cursor

/-!
# Texts in quotes

Reading a quoted text yields its characters, with escapes resolved. Characters outside the basic
plane may be escaped as a pair of surrogates, and a surrogate without its partner is a fault. A
text that is only passed over is held to less: its escapes need four hexadecimal digits, but any
will do.
-/

namespace ScriptAssist.Json

/-- The value of a hexadecimal digit. -/
def hexValue? (c : Char) : Option Nat :=
  if c.isDigit then some (c.toNat - '0'.toNat)
  else if 'a' ≤ c ∧ c ≤ 'f' then some (c.toNat - 'a'.toNat + 10)
  else if 'A' ≤ c ∧ c ≤ 'F' then some (c.toNat - 'A'.toNat + 10)
  else none

/-- The number that four hexadecimal digits spell. A fault is found only behind four bytes,
whatever they are, or at the end of a shorter text. -/
def hexQuad (s : List Char) (index : Nat) : Except Failure Nat :=
  let fault := if 4 ≤ Text.utf8Size s then breachAt .badEscape (index + 4)
    else breachAt .endInText (index + Text.utf8Size s)
  match s with
  | a :: b :: c :: d :: _ =>
    match hexValue? a, hexValue? b, hexValue? c, hexValue? d with
    | some a, some b, some c, some d => .ok (((a * 16 + b) * 16 + c) * 16 + d)
    | _, _, _, _ => fault
  | _ => fault

/-- Whether a 16-bit unit is the first of a pair. -/
def isHighSurrogate (unit : Nat) : Bool :=
  0xD800 ≤ unit && unit < 0xDC00

/-- Whether a 16-bit unit is the second of a pair. -/
def isLowSurrogate (unit : Nat) : Bool :=
  0xDC00 ≤ unit && unit < 0xE000

/-- The character that a pair of surrogates stands for. -/
def ofSurrogates (high low : Nat) : Char :=
  Char.ofNat (0x10000 + (high - 0xD800) * 0x400 + (low - 0xDC00))

/-- The second half of a pair, with the number of characters it takes up. -/
def lowSurrogate (high : Nat) : List Char → (index : Nat) → Except Failure (Char × Nat)
  | '\\' :: 'u' :: rest, index => do
    let low ← hexQuad rest (index + 2)
    if isLowSurrogate low then return (ofSurrogates high low, 6)
    else breachAt .loneSurrogate (index + 6)
  | ['\\'], index => breachAt .endInText (index + 1)
  | '\\' :: _, index => breachAt .unpairedSurrogate (index + 2)
  | [], index => breachAt .endInText index
  | _, index => breachAt .unpairedSurrogate (index + 1)

/-- The character of an escape whose letter has been read, with the number of characters after
the letter. -/
def unicodeEscape (s : List Char) (index : Nat) : Except Failure (Char × Nat) := do
  let unit ← hexQuad s index
  if isLowSurrogate unit then breachAt .loneSurrogate (index + 4)
  else if isHighSurrogate unit then
    let (c, taken) ← lowSurrogate unit (s.drop 4) (index + 4)
    return (c, 4 + taken)
  else return (Char.ofNat unit, 4)

/-- The character that a letter behind a backslash stands for. -/
def simpleEscape? : Char → Option Char
  | '"' => some '"'
  | '\\' => some '\\'
  | '/' => some '/'
  | 'b' => some '\x08'
  | 'f' => some '\x0c'
  | 'n' => some '\n'
  | 'r' => some '\r'
  | 't' => some '\t'
  | _ => none

/-- The character of an escape, with the number of characters behind the backslash. -/
def escapeAt (s : List Char) (index : Nat) : Except Failure (Char × Nat) :=
  match s with
  | [] => breachAt .endInText index
  | 'u' :: rest => (unicodeEscape rest (index + 1)).map fun (c, taken) => (c, taken + 1)
  | letter :: _ =>
    match simpleEscape? letter with
    | some c => .ok (c, 1)
    | none => breachAt .badEscape (index + 1)

/-- Reads a text up to its closing quote. `read` holds the characters so far, last one first, and
the next `inside` characters belong to an escape already resolved. -/
def readTextFrom : (read : List Char) → (inside index : Nat) → List Char → Result String
  | _, _, index, [] => breachAt .endInText index
  | read, inside + 1, index, c :: rest => readTextFrom read inside (index + c.utf8Size) rest
  | read, 0, index, c :: rest =>
    if c = '"' then .ok (String.ofList read.reverse, ⟨rest, index + 1⟩)
    else if c = '\\' then
      match escapeAt rest (index + 1) with
      | .ok (escaped, taken) => readTextFrom (escaped :: read) taken (index + 1) rest
      | .error failure => .error failure
    else if c.toNat < 0x20 then breachAt .controlCharacter (index + 1)
    else readTextFrom (c :: read) 0 (index + c.utf8Size) rest

/-- Reads a text whose opening quote has been read. -/
def readText (c : Cursor) : Result String :=
  readTextFrom [] 0 c.index c.rest

/-- The number of characters behind a backslash that belong to its escape. -/
def escapeLength (s : List Char) (index : Nat) : Except Failure Nat :=
  match s with
  | [] => breachAt .endInText index
  | 'u' :: rest => (hexQuad rest (index + 1)).map fun _ => 5
  | letter :: _ =>
    if (simpleEscape? letter).isSome then .ok 1 else breachAt .badEscape (index + 1)

/-- Passes over a text up to its closing quote. -/
def skipTextFrom : (inside index : Nat) → List Char → Except Failure Cursor
  | _, index, [] => breachAt .endInText index
  | inside + 1, index, c :: rest => skipTextFrom inside (index + c.utf8Size) rest
  | 0, index, c :: rest =>
    if c = '"' then .ok ⟨rest, index + 1⟩
    else if c = '\\' then
      match escapeLength rest (index + 1) with
      | .ok taken => skipTextFrom taken (index + 1) rest
      | .error failure => .error failure
    else if c.toNat < 0x20 then breachAt .controlCharacter index
    else skipTextFrom 0 (index + c.utf8Size) rest

/-- Passes over a text whose opening quote has been read. -/
def skipText (c : Cursor) : Except Failure Cursor :=
  skipTextFrom 0 c.index c.rest

end ScriptAssist.Json
