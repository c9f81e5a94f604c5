import ScriptAssist.Json.ValueReader

/-!
# Decoders

A decoder reads a value of some type, either straight from a text or from a JSON value that has
been read before. Reading a text goes through it once, from left to right: whatever is wrong first
is reported, be it the grammar or the shape, and members that nobody asked for are only passed
over. Converting a value can only find faults of shape, and they have no place.
-/

namespace ScriptAssist.Json

/-- Two ways to a value of a type. -/
structure Decoder (α : Type) where
  /-- Reads from a text, with brackets opened `depth - 1` times at most. -/
  read : (depth : Nat) → Reader α
  /-- Reads from a value. -/
  convert : Value → Except Mismatch α

/-- Reads what stands at the cursor, only to say that something else was expected. Brackets are
not entered. -/
def failExpecting {α : Type} (expected : String) (c : Cursor) : Except Failure α :=
  let fail (found : Found) (behind : Cursor) : Except Failure α :=
    mismatchAt (.wrongType found expected) behind.index
  match c.rest with
  | [] => c.failHere .endInValue
  | ch :: _ =>
    if ch = 'n' then (readWord ['u', 'l', 'l'] c.next).bind (fail .null)
    else if ch = 't' then (readWord ['r', 'u', 'e'] c.next).bind (fail (.bool true))
    else if ch = 'f' then (readWord ['a', 'l', 's', 'e'] c.next).bind (fail (.bool false))
    else if ch = '-' then (readNumber true c.next).bind fun (n, c) => fail (.number n) c
    else if ch.isDigit then (readNumber false c).bind fun (n, c) => fail (.number n) c
    else if ch = '"' then (readText c.next).bind fun (s, c) => fail (.text s) c
    else if ch = '[' then fail .sequence c
    else if ch = '{' then fail .map c
    else c.failPast .notAValue

/-- Passes over spaces and looks at the character behind them. -/
def peek {α : Type} (c : Cursor) (f : Char → Reader α) : Result α :=
  let c := c.skipSpaces
  match c.rest with
  | [] => c.failHere .endInValue
  | ch :: _ => f ch c

/-- The outcome of a check on what was read up to a cursor, which is where its fault is placed. -/
def checked {α : Type} (outcome : Except Mismatch α) (c : Cursor) : Result α :=
  match outcome with
  | .ok a => .ok (a, c)
  | .error m => mismatchAt m c.index

/-- The value itself if it is of the type asked for. -/
def Value.expect {α : Type} (expected : String) (get : Value → Option α) (v : Value) :
    Except Mismatch α :=
  match get v with
  | some a => .ok a
  | none => .error (.wrongType v.found expected)

namespace Decoder

/-- Any value. -/
def any : Decoder Value where
  read depth c := readValue c.fuel depth c
  convert v := .ok v

/-- A text. -/
def text : Decoder String where
  read _ c := peek c fun ch c => if ch = '"' then readText c.next else failExpecting "a string" c
  convert := Value.expect "a string" Value.text?

/-- A truth value. -/
def bool : Decoder Bool where
  read _ c := peek c fun ch c =>
    if ch = 't' then readConstant ['r', 'u', 'e'] true c
    else if ch = 'f' then readConstant ['a', 'l', 's', 'e'] false c
    else failExpecting "a boolean" c
  convert := Value.expect "a boolean" Value.bool?

/-- Nothing but `null`. -/
def null : Decoder Unit where
  read _ c := peek c fun ch c =>
    if ch = 'n' then readConstant ['u', 'l', 'l'] () c else failExpecting "unit" c
  convert := Value.expect "unit" fun
    | .null => some ()
    | _ => none

/-- An integer of a range, described in words of the caller. -/
def intIn (low high : Int) (expected : String) : Decoder Int :=
  let check (n : Number) : Except Mismatch Int :=
    match n with
    | .int i => if low ≤ i ∧ i ≤ high then .ok i else .error (.wrongValue (.number n) expected)
    | .real _ => .error (.wrongType (.number n) expected)
  { read _ c := peek c fun ch c =>
      if ch = '-' then andThen (readNumber true c.next) fun n => checked (check n)
      else if ch.isDigit then andThen (readNumber false c) fun n => checked (check n)
      else failExpecting expected c
    convert v :=
      match v with
      | .number n => check n
      | _ => .error (.wrongType v.found expected) }

/-- A 32-bit word. -/
def word32 : Decoder UInt32 :=
  let d := intIn 0 0xFFFFFFFF "u32"
  { read depth c := yielding (d.read depth c) fun i => UInt32.ofNat i.toNat
    convert v := (d.convert v).map fun i => UInt32.ofNat i.toNat }

/-- A 32-bit integer. -/
def int32 : Decoder Int :=
  intIn (-0x80000000) 0x7FFFFFFF "i32"

/-- A value or `null`. -/
def optional {α : Type} (d : Decoder α) : Decoder (Option α) where
  read depth c :=
    if c.skipSpaces.atChar 'n' then readConstant ['u', 'l', 'l'] none c.skipSpaces
    else yielding (d.read depth c) some
  convert
    | .null => .ok none
    | v => (d.convert v).map some

/-- One of several names. -/
def named {α : Type} (names : List (String × α)) (s : String) : Except Mismatch α :=
  match names.lookup s with
  | some a => .ok a
  | none => .error (.unknownName s (names.map Prod.fst))

/-- Reads the first key of an object, behind its brace, and the colon behind the key. The key is one
of several names; there has to be one. -/
def readName {α : Type} (names : List (String × α)) (c : Cursor) : Result α :=
  match nextKey true c with
  | .error failure => .error failure
  | .ok none => c.skipSpaces.failPast .notAValue
  | .ok (some c) =>
    andThen (readText c) fun name c =>
    andThen (checked (named names name) c) fun a c =>
    (readColon c).map fun c => (a, c)

/-- One of several names, with content: an object with the name as its one key, or, if there is a
content for that case, the bare name. -/
def tagged {α β : Type} (names : List (String × α)) (content : Decoder β) (bare? : Option β) :
    Decoder (α × β) :=
  let bareName (a : α) : Except Mismatch (α × β) :=
    match bare? with
    | some b => .ok (a, b)
    | none => .error (.wrongType .bareName "newtype variant")
  let manyKeys : Mismatch := .wrongValue .map "map with a single key"
  { read depth c := peek c fun ch c =>
      if ch = '{' then
        if depth ≤ 1 then c.failPast .tooDeep
        else
          andThen (readName names c.next) fun a c =>
          andThen (content.read (depth - 1) c) fun b c =>
          let c := c.skipSpaces
          match c.rest with
          | [] => c.failHere .endInObject
          | ch :: _ => if ch = '}' then .ok ((a, b), c.next) else c.failHere .notAValue
      else if ch = '"' then
        andThen (readText c.next) fun name c =>
        andThen (checked (named names name) c) fun a c =>
        match bareName a with
        | .ok ab => .ok (ab, c)
        | .error m => .error ⟨.mismatch m, none⟩
      else c.failPast .notAValue
    convert
      | .text s => (named names s).bind bareName
      | .object [(key, v)] => do return (← named names key, ← content.convert v)
      | .object _ => .error manyKeys
      | v => .error (.wrongType v.found "string or map") }

/-- One of several names. -/
def choice {α : Type} (names : List (String × α)) : Decoder α :=
  let d := tagged names null (some ())
  { read depth c := yielding (d.read depth c) Prod.fst
    convert v := (d.convert v).map Prod.fst }

end Decoder

end ScriptAssist.Json
