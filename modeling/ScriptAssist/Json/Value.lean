import ScriptAssist.Json.Double

/-!
# JSON values

A number is an integer if it is written as one and fits in 64 bits, signed or unsigned; else it
is a double. An object keeps its members sorted by key, each key once, which `insert` sees to;
code points and UTF-8 bytes give the same order.
-/

namespace ScriptAssist.Json

/-- A number. -/
inductive Number where
  | int (n : Int)
  | real (x : Double)
  deriving DecidableEq, Repr

/-- A JSON value. -/
inductive Value where
  | null
  | bool (b : Bool)
  | number (n : Number)
  | text (s : String)
  | array (items : List Value)
  | object (members : List (String × Value))
  deriving Repr

namespace Value

instance : Inhabited Value := ⟨null⟩

/-- A whole number as a value. -/
def int (n : Int) : Value :=
  .number (.int n)

/-- A list of texts as a value. -/
def texts (ss : List String) : Value :=
  .array (ss.map .text)

/-- Adds a member in its place by key; a member with that key is replaced. -/
def insert (key : String) (value : Value) : List (String × Value) → List (String × Value)
  | [] => [(key, value)]
  | (k, v) :: rest =>
    if key = k then (key, value) :: rest
    else if key < k then (key, value) :: (k, v) :: rest
    else (k, v) :: insert key value rest

/-- The object with the given members, of which a later one wins over an earlier one. -/
def ofMembers (members : List (String × Value)) : Value :=
  .object (members.foldl (fun sorted (key, value) => insert key value sorted) [])

/-- The member with a key; none if there is none, or if the value is no object. -/
def get? (key : String) : Value → Option Value
  | object members => members.lookup key
  | _ => none

/-- The value at the end of a path of keys. -/
def path? (keys : List String) (v : Value) : Option Value :=
  keys.foldlM (fun v key => v.get? key) v

/-- A text. -/
def text? : Value → Option String
  | text s => some s
  | _ => none

/-- A truth value. -/
def bool? : Value → Option Bool
  | bool b => some b
  | _ => none

/-- An integer that is not negative. -/
def natural? : Value → Option Nat
  | number (.int (.ofNat n)) => some n
  | _ => none

/-- The items of an array. -/
def items? : Value → Option (List Value)
  | array items => some items
  | _ => none

end Value

end ScriptAssist.Json
