import ScriptAssist.Yaml.Cursor

/-!
# Block scalars

A block scalar takes up whole lines below its mark, all indented by the same number of columns. A
literal one keeps its line breaks; a folded one joins lines, unless they begin with a blank. Line
breaks at the end are kept, stripped, or cut down to one.
-/

namespace ScriptAssist.Yaml.BlockScalar

/-- What becomes of the line breaks at the end. -/
inductive Chomping where
  | strip
  | clip
  | keep
  deriving DecidableEq, Repr

/-- What a header says: what becomes of the end, and the indentation if it is given. -/
structure Header where
  chomping : Chomping := .clip
  indentation? : Option Nat := none
  deriving DecidableEq, Repr

/-- Reads the sign for the end. -/
def readChomping (c : Cursor) : Chomping × Cursor :=
  if c.atChar '+' then (.keep, c.next)
  else if c.atChar '-' then (.strip, c.next)
  else (.clip, c)

/-- Reads the digit for the indentation, which must not be zero. -/
def readIndentation (c : Cursor) : Option (Option Nat × Cursor) :=
  match c.rest with
  | ch :: _ =>
    if ch = '0' then none
    else if ch.isDigit then some (some (ch.toNat - '0'.toNat), c.next)
    else some (none, c)
  | [] => some (none, c)

/-- Reads a header, behind the mark: sign and digit in either order, and the rest of the line. -/
def readHeader (c : Cursor) : Option (Header × Cursor) := do
  let (chomping, c) := readChomping c
  let (indentation?, c) ← readIndentation c
  let (chomping, c) := if chomping = .clip ∧ indentation?.isSome then readChomping c
    else (chomping, c)
  return (⟨chomping, indentation?⟩, ← c.skipLineRest?)

/-- Walks over spaces up to a column. -/
def skipIndentation (limit? : Option Nat) : (fuel : Nat) → Cursor → Cursor
  | 0, c => c
  | fuel + 1, c =>
    if c.atChar ' ' && limit?.all (c.column < ·) then skipIndentation limit? fuel c.next else c

/-- What comes before a line of the scalar: empty lines, and its indentation. -/
structure Lead where
  /-- The breaks of the empty lines, last one first. -/
  breaks : List Char
  /-- The greatest column that any of these lines reached. -/
  widest : Nat
  behind : Cursor

/-- Reads empty lines and indentation. As long as the indentation is open, all spaces count. No
tab may stand in it. -/
def readLead (limit? : Option Nat) :
    (fuel : Nat) → (breaks : List Char) → (widest : Nat) → Cursor → Option Lead
  | 0, _, _, _ => none
  | fuel + 1, breaks, widest, c =>
    let c := skipIndentation limit? c.fuel c
    let widest := max widest c.column
    if c.atChar '\t' && limit?.all (c.column < ·) then none
    else
      match c.lineBreak? with
      | some (ch, c) => readLead limit? fuel (ch :: breaks) widest c
      | none => some ⟨breaks, widest, c⟩

/-- What stands between two lines: the break that ended the first one, and those of the empty
lines behind it. A folded scalar joins two lines if neither begins with a blank. -/
def join (folds : Bool) (ending : Option Char) (breaks : List Char) : List Char :=
  if folds && ending = some '\n' then if breaks.isEmpty then [' '] else breaks.reverse
  else ending.toList ++ breaks.reverse

/-- Reads lines as long as they are indented by `indentation` columns. `passed` holds what has
been read, last character first, `ending` the break that ended the last line, and `breaks` those
of the empty lines behind it. -/
def readLines (folded : Bool) (chomping : Chomping) (indentation : Nat) :
    (fuel : Nat) → (passed : List Char) → (blankStart : Bool) → (ending : Option Char) →
      (breaks : List Char) → Cursor → Option (List Char × Cursor)
  | 0, _, _, _, _, _ => none
  | fuel + 1, passed, blankStart, ending, breaks, c =>
    if c.column = indentation && !c.rest.isEmpty then
      let startsBlank := c.meets isBlank
      let between := join (folded && !blankStart && !startsBlank) ending breaks
      let (line, c) := c.span (!isBreak ·)
      let (ending, c) := match c.lineBreak? with
        | some (ch, c) => (some ch, c)
        | none => (none, c)
      match readLead (some indentation) c.fuel [] 0 c with
      | none => none
      | some lead =>
        readLines folded chomping indentation fuel (line.reverse ++ between.reverse ++ passed)
          startsBlank ending lead.breaks lead.behind
    else
      some (match chomping with
        | .strip => passed
        | .clip => ending.toList ++ passed
        | .keep => breaks ++ ending.toList ++ passed, c)

/-- Reads a block scalar from its mark on. `parent` is the column of the collection around it,
one below zero if there is none. -/
def read (folded : Bool) (parent : Int) (c : Cursor) : Option (String × Cursor) := do
  let (header, c) ← readHeader c.next
  let least : Nat := (max (parent + 1) 1).toNat
  let given? := header.indentation?.map fun n => (max parent 0).toNat + n
  let lead ← readLead given? c.fuel [] 0 c
  let indentation := given?.getD (max lead.widest least)
  let (passed, c) ← readLines folded header.chomping indentation c.fuel [] false none lead.breaks
    lead.behind
  return (String.ofList passed.reverse, c)

end ScriptAssist.Yaml.BlockScalar
