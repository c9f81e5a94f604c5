import ScriptAssist.Json.Decoder

/-!
# Records

A record is an object with known fields, or an array of their values in order. Its layout lists
the fields: a name, a decoder, and what stands for a field that is absent. Fields may come in any
order, each at most once; other members are passed over. Reading a text fills a draft, which has a
slot for each field; converting an object looks the fields up.
-/

namespace ScriptAssist.Json

/-- The fields of a record, with the type of all their values together. -/
inductive Layout : Type → Type 1 where
  | done : Layout Unit
  | field {α β : Type} (name : String) (content : Decoder α) (absent? : Option α)
      (rest : Layout β) : Layout (α × β)

namespace Layout

/-- A field that must be there. -/
def required {α β : Type} (name : String) (content : Decoder α) (rest : Layout β) :
    Layout (α × β) :=
  .field name content none rest

/-- A field that may be missing or null. -/
def possible {α β : Type} (name : String) (content : Decoder α) (rest : Layout β) :
    Layout (Option α × β) :=
  .field name content.optional (some none) rest

/-- The number of fields. -/
def size : {τ : Type} → Layout τ → Nat
  | _, .done => 0
  | _, .field _ _ _ rest => rest.size + 1

/-- A slot for each field. -/
def Draft : {τ : Type} → Layout τ → Type
  | _, .done => Unit
  | _, @field α _ _ _ _ rest => Option α × rest.Draft

/-- The draft with nothing in it. -/
def blank : {τ : Type} → (l : Layout τ) → l.Draft
  | _, .done => ()
  | _, .field _ _ _ rest => (none, rest.blank)

/-- The value of a field that nobody gave. -/
def absent {α : Type} (name : String) : Option α → Except Mismatch α
  | some a => .ok a
  | none => .error (.missingField name)

/-- The values in a draft. A field without value takes its stand-in, or is missing. -/
def finish : {τ : Type} → (l : Layout τ) → l.Draft → Except Mismatch τ
  | _, .done, _ => .ok ()
  | _, @field α _ name _ absent? rest, draft => do
    let (slot, slots) : Option α × rest.Draft := draft
    let a ← match slot with
      | some a => .ok a
      | none => absent name absent?
    return (a, ← rest.finish slots)

/-- The cursor behind the spaces, and behind the closing brace if it is next: a second field of one
name is reported there. -/
def behindKey (c : Cursor) : Cursor :=
  if c.skipSpaces.atChar '}' then c.skipSpaces.next else c.skipSpaces

/-- Reads the value of a key into its slot; none if the key is no field's. -/
def readField (depth : Nat) (key : String) (c : Cursor) :
    {τ : Type} → (l : Layout τ) → l.Draft → Option (Result l.Draft)
  | _, .done, _ => none
  | _, @field α _ name content _ rest, draft =>
    let (slot, slots) : Option α × rest.Draft := draft
    if key = name then
      some <|
        if slot.isSome then mismatchAt (.duplicateField name) (behindKey c).index
        else
          match readColon c with
          | .error failure => .error failure
          | .ok c => yielding (content.read depth c) fun a => (some a, slots)
    else
      (readField depth key c rest slots).map fun result =>
        yielding result fun slots => (slot, slots)

/-- Reads the members of an object up to its brace. -/
def readMembers {τ : Type} (l : Layout τ) :
    (fuel depth : Nat) → (first : Bool) → l.Draft → Cursor → Result l.Draft
  | 0, _, _, _, c => c.failHere .endInObject
  | fuel + 1, depth, first, draft, c =>
    match nextKey first c with
    | .error failure => .error failure
    | .ok none => .ok (draft, c.skipSpaces.next)
    | .ok (some c) =>
      match readText c with
      | .error failure => .error failure
      | .ok (key, c) =>
        match l.readField depth key c draft with
        | some (.error failure) => .error failure
        | some (.ok (draft, c)) => l.readMembers fuel depth false draft c
        | none =>
          match (readColon c).bind skipValue with
          | .error failure => .error failure
          | .ok c => l.readMembers fuel depth false draft c

/-- Reads the items of an array, one for each field. When the array ends early, the rest takes its
stand-ins if the record is `lenient`, and `short` makes the fault otherwise. -/
def readItems (depth : Nat) (lenient : Bool) (short : Nat → Mismatch) :
    {τ : Type} → (l : Layout τ) → (count : Nat) → Cursor → Result τ
  | _, .done, _, c => .ok ((), c)
  | _, .field name content absent? rest, count, c =>
    let item : Result _ :=
      match nextItem (count = 0) c with
      | .error failure => .error failure
      | .ok (some c) => content.read depth c
      | .ok none =>
        match if lenient then absent name absent? else .error (short count) with
        | .ok a => .ok (a, c)
        | .error m => mismatchAt m c.skipSpaces.next.index
    andThen item fun a c =>
    yielding (rest.readItems depth lenient short (count + 1) c) fun b => (a, b)

/-- Passes over the bracket that ends an array of which all items have been read. -/
def closeItems (c : Cursor) : Except Failure Cursor :=
  let c := c.skipSpaces
  match c.rest with
  | [] => c.failHere .endInList
  | ch :: _ =>
    if ch = ']' then .ok c.next
    else if ch = ',' then
      let c := c.next.skipSpaces
      if c.atChar ']' then c.failPast .trailingComma else c.failPast .trailingCharacters
    else c.failPast .trailingCharacters

/-- Whether a member's value is what its field asks for. Members that are no fields pass. -/
def checkMember (key : String) (v : Value) : {τ : Type} → Layout τ → Except Mismatch Unit
  | _, .done => .ok ()
  | _, .field name content _ rest =>
    if key = name then (content.convert v).map fun _ => () else rest.checkMember key v

/-- The fields' values among the members of an object. -/
def gather (members : List (String × Value)) : {τ : Type} → Layout τ → Except Mismatch τ
  | _, .done => .ok ()
  | _, .field name content absent? rest => do
    let a ← match members.lookup name with
      | some v => content.convert v
      | none => absent name absent?
    return (a, ← rest.gather members)

/-- The fields' values among the items of an array. -/
def gatherItems (lenient : Bool) (short : Nat → Mismatch) :
    {τ : Type} → Layout τ → (count : Nat) → List Value → Except Mismatch (τ × List Value)
  | _, .done, _, items => .ok ((), items)
  | _, .field name content absent? rest, count, items => do
    let a ← match items with
      | v :: _ => content.convert v
      | [] => if lenient then absent name absent? else .error (short count)
    let (b, left) ← rest.gatherItems lenient short (count + 1) items.tail
    return ((a, b), left)

end Layout

/-- A record: the name under which it is known, its layout, and how its value is made. -/
structure Record (τ α : Type) where
  name : String
  layout : Layout τ
  /-- Whether items may be missing from the end of an array. -/
  lenient : Bool := false
  build : τ → α

namespace Record

variable {τ α : Type}

/-- An array ends before all fields have a value. -/
def short (r : Record τ α) (count : Nat) : Mismatch :=
  .wrongLength count s!"struct {r.name} with {r.layout.size} elements"

/-- Reads a record from a text. -/
def read (r : Record τ α) (depth : Nat) (c : Cursor) : Result α :=
  peek c fun ch c =>
    if ch = '[' then
      if depth ≤ 1 then c.failPast .tooDeep
      else
        andThen (r.layout.readItems (depth - 1) r.lenient r.short 0 c.next) fun t c =>
        match Layout.closeItems c with
        | .error failure => .error failure
        | .ok c => .ok (r.build t, c)
    else if ch = '{' then
      if depth ≤ 1 then c.failPast .tooDeep
      else
        andThen (r.layout.readMembers c.fuel (depth - 1) true r.layout.blank c.next) fun draft c =>
        yielding (checked (r.layout.finish draft) c) r.build
    else failExpecting s!"struct {r.name}" c

/-- Reads a record from a value. Members are checked in the order of their keys, before any field
is found missing. -/
def convert (r : Record τ α) : Value → Except Mismatch α
  | .object members => do
    members.forM fun (key, v) => r.layout.checkMember key v
    return r.build (← r.layout.gather members)
  | .array items => do
    let (t, left) ← r.layout.gatherItems r.lenient r.short 0 items
    if left.isEmpty then return r.build t
    else .error (.wrongLength items.length "fewer elements in array")
  | v => .error (.wrongType v.found s!"struct {r.name}")

/-- The decoder of a record. -/
def decoder (r : Record τ α) : Decoder α :=
  ⟨r.read, r.convert⟩

end Record

/-- Reads a whole text with a decoder. -/
def Decoder.parse {α : Type} (d : Decoder α) (text : String) : Except Fault α :=
  readWhole (d.read maxDepth) text

end ScriptAssist.Json
