import ScriptAssist.Json.NumberReader
import ScriptAssist.Json.TextReader

/-!
# Reading values

`Value.parse` reads a whole text as a value. Arrays and objects nest to a given depth at most.
`skipValue` passes over a value that nobody asked for: it need not be in range, properly paired
or bounded in depth.
-/

namespace ScriptAssist.Json

/-- Steps that suffice to read any value from a cursor: no more than two of them are taken
without a character being read. -/
def Cursor.fuel (c : Cursor) : Nat :=
  2 * c.rest.length + 4

/-- Passes over spaces to the `:` behind a key, and over the `:`. -/
def readColon (c : Cursor) : Except Failure Cursor :=
  let c := c.skipSpaces
  match c.rest with
  | [] => c.failHere .endInObject
  | ch :: _ => if ch = ':' then .ok c.next else c.failPast .noColon

/-- Passes over what stands before the next item of an array: nothing before the first, else a
comma. None if the array ends, with the cursor at its bracket. -/
def nextItem (first : Bool) (c : Cursor) : Except Failure (Option Cursor) :=
  let c := c.skipSpaces
  match c.rest with
  | [] => c.failHere .endInList
  | ch :: _ =>
    if ch = ']' then .ok none
    else if first then .ok (some c)
    else if ch = ',' then
      let c := c.next.skipSpaces
      match c.rest with
      | [] => c.failHere .endInValue
      | ch :: _ => if ch = ']' then c.failPast .trailingComma else .ok (some c)
    else c.failPast .noListMark

/-- Passes over what stands before the next key of an object, and over the key's opening quote.
None if the object ends, with the cursor at its brace. -/
def nextKey (first : Bool) (c : Cursor) : Except Failure (Option Cursor) :=
  let c := c.skipSpaces
  match c.rest with
  | [] => c.failHere .endInObject
  | ch :: _ =>
    if ch = '}' then .ok none
    else if first then if ch = '"' then .ok (some c.next) else c.failPast .keyNotText
    else if ch = ',' then
      let c := c.next.skipSpaces
      match c.rest with
      | [] => c.failHere .endInValue
      | ch :: _ =>
        if ch = '"' then .ok (some c.next)
        else if ch = '}' then c.failPast .trailingComma
        else c.failPast .keyNotText
    else c.failPast .noObjectMark

/-- Reads a word that stands for a constant; its first letter has been looked at. -/
def readConstant {α : Type} (letters : List Char) (constant : α) (c : Cursor) : Result α :=
  (readWord letters c.next).map fun c => (constant, c)

mutual

/-- Reads a value. Brackets may be opened `depth - 1` times inside one another. -/
def readValue : (fuel depth : Nat) → Reader Value
  | 0, _, c => c.failHere .endInValue
  | fuel + 1, depth, c =>
    let c := c.skipSpaces
    match c.rest with
    | [] => c.failHere .endInValue
    | ch :: _ =>
      if ch = 'n' then readConstant ['u', 'l', 'l'] .null c
      else if ch = 't' then readConstant ['r', 'u', 'e'] (.bool true) c
      else if ch = 'f' then readConstant ['a', 'l', 's', 'e'] (.bool false) c
      else if ch = '-' then yielding (readNumber true c.next) .number
      else if ch.isDigit then yielding (readNumber false c) .number
      else if ch = '"' then yielding (readText c.next) .text
      else if ch = '[' then
        if depth ≤ 1 then c.failPast .tooDeep else readItems fuel (depth - 1) true [] c.next
      else if ch = '{' then
        if depth ≤ 1 then c.failPast .tooDeep else readMembers fuel (depth - 1) true [] c.next
      else c.failPast .notAValue

/-- Reads the items of an array up to its bracket; `items` holds those before, last one first. -/
def readItems : (fuel depth : Nat) → (first : Bool) → (items : List Value) → Reader Value
  | 0, _, _, _, c => c.failHere .endInList
  | fuel + 1, depth, first, items, c =>
    match nextItem first c with
    | .error failure => .error failure
    | .ok none => .ok (.array items.reverse, c.skipSpaces.next)
    | .ok (some c) =>
      match readValue fuel depth c with
      | .error failure => .error failure
      | .ok (v, c) => readItems fuel depth false (v :: items) c

/-- Reads the members of an object up to its brace; `members` holds those before. -/
def readMembers :
    (fuel depth : Nat) → (first : Bool) → (members : List (String × Value)) → Reader Value
  | 0, _, _, _, c => c.failHere .endInObject
  | fuel + 1, depth, first, members, c =>
    match nextKey first c with
    | .error failure => .error failure
    | .ok none => .ok (.object members, c.skipSpaces.next)
    | .ok (some c) =>
      match readText c with
      | .error failure => .error failure
      | .ok (key, c) =>
        match readColon c with
        | .error failure => .error failure
        | .ok c =>
          match readValue fuel depth c with
          | .error failure => .error failure
          | .ok (v, c) => readMembers fuel depth false (Value.insert key v members) c

end

/-- Passes over digits, of which there must be one. -/
def skipSomeDigits (c : Cursor) : Except Failure Cursor :=
  if c.atDigit then .ok c.skipDigits
  else if c.rest.isEmpty then c.failHere .badNumber
  else breachAt .badNumber (c.index + 1)

/-- Passes over a number whose sign, if any, has been read. -/
def skipNumber (c : Cursor) : Except Failure Cursor := do
  let whole ← skipSomeDigits c
  if c.atChar '0' ∧ c.next.atDigit then c.next.failPast .badNumber
  else
    let fraction ← if whole.atChar '.' then
        if whole.next.atDigit then .ok whole.next.skipDigits else whole.next.failPast .badNumber
      else .ok whole
    if fraction.atChar 'e' || fraction.atChar 'E' then
      let letter := fraction.next
      skipSomeDigits (if letter.atChar '+' || letter.atChar '-' then letter.next else letter)
    else return fraction

/-- What is open around a value that is passed over. -/
inductive Bracket where
  | list
  | object
  deriving DecidableEq, Repr

/-- What may come next while a value is passed over. -/
inductive SkipState where
  /-- A value. -/
  | value
  /-- The end of the innermost bracket, or its first entry. -/
  | opened
  /-- The end of the innermost bracket, or a comma. -/
  | entryDone
  /-- A key and its colon. -/
  | key

/-- Passes over a value; `around` holds the open brackets, innermost first. -/
def skipFromState : (fuel : Nat) → (around : List Bracket) → SkipState → Cursor →
    Except Failure Cursor
  | 0, _, _, c => c.failHere .endInValue
  | fuel + 1, around, .value, c =>
    let c := c.skipSpaces
    match c.rest with
    | [] => c.failHere .endInValue
    | ch :: _ =>
      if ch = '[' then skipFromState fuel (.list :: around) .opened c.next
      else if ch = '{' then skipFromState fuel (.object :: around) .opened c.next
      else
        let scalar : Except Failure Cursor :=
          if ch = 'n' then readWord ['u', 'l', 'l'] c.next
          else if ch = 't' then readWord ['r', 'u', 'e'] c.next
          else if ch = 'f' then readWord ['a', 'l', 's', 'e'] c.next
          else if ch = '-' then skipNumber c.next
          else if ch.isDigit then skipNumber c
          else if ch = '"' then skipText c.next
          else c.failPast .notAValue
        match scalar with
        | .error failure => .error failure
        | .ok c => skipFromState fuel around .entryDone c
  | _ + 1, [], _, c => .ok c
  | fuel + 1, .list :: around, .opened, c =>
    let c := c.skipSpaces
    match c.rest with
    | [] => c.failHere .endInList
    | ch :: _ =>
      if ch = ']' then skipFromState fuel around .entryDone c.next
      else skipFromState fuel (.list :: around) .value c
  | fuel + 1, .object :: around, .opened, c =>
    let c := c.skipSpaces
    match c.rest with
    | [] => c.failHere .endInObject
    | ch :: _ =>
      if ch = '}' then skipFromState fuel around .entryDone c.next
      else skipFromState fuel (.object :: around) .key c
  | fuel + 1, .list :: around, .entryDone, c =>
    let c := c.skipSpaces
    match c.rest with
    | [] => c.failHere .endInList
    | ch :: _ =>
      if ch = ',' then skipFromState fuel (.list :: around) .value c.next
      else if ch = ']' then skipFromState fuel around .entryDone c.next
      else c.failPast .noListMark
  | fuel + 1, .object :: around, .entryDone, c =>
    let c := c.skipSpaces
    match c.rest with
    | [] => c.failHere .endInObject
    | ch :: _ =>
      if ch = ',' then skipFromState fuel (.object :: around) .key c.next
      else if ch = '}' then skipFromState fuel around .entryDone c.next
      else c.failPast .noObjectMark
  | fuel + 1, around, .key, c =>
    let c := c.skipSpaces
    match c.rest with
    | [] => c.failHere .endInObject
    | ch :: _ =>
      if ch = '"' then
        match skipText c.next with
        | .error failure => .error failure
        | .ok c =>
          match readColon c with
          | .error failure => .error failure
          | .ok c => skipFromState fuel around .value c
      else c.failPast .keyNotText

/-- Passes over a value. -/
def skipValue (c : Cursor) : Except Failure Cursor :=
  skipFromState (2 * c.fuel) [] .value c

/-- The fault that a failure is in a text. -/
def Failure.fault (text : List Char) (failure : Failure) : Fault :=
  ⟨failure.cause, failure.index?.map (Place.ofIndex text)⟩

/-- Reads a whole text: nothing but spaces may follow the value. -/
def readWhole {α : Type} (reader : Reader α) (text : String) : Except Fault α :=
  match reader (.start text.toList) with
  | .error failure => .error (failure.fault text.toList)
  | .ok (a, c) =>
    let c := c.skipSpaces
    if c.rest.isEmpty then .ok a
    else .error ⟨.breach .trailingCharacters, some (.ofIndex text.toList c.pastIndex)⟩

/-- The greatest depth to which values may nest, and one. -/
def maxDepth : Nat := 128

/-- Reads a text as a value, nested to a given depth at most. -/
def Value.parseWithin (depth : Nat) (text : String) : Except Fault Value :=
  readWhole (fun c => readValue c.fuel depth c) text

/-- Reads a text as a value. -/
def Value.parse (text : String) : Except Fault Value :=
  parseWithin maxDepth text

end ScriptAssist.Json
