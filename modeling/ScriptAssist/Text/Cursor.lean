/-!
# Cursors

A cursor is a byte offset into the UTF-8 form of a text. An offset that lies past the end or
inside a character stands for the nearest place before it where a character begins, so every
offset splits every text. `before` is the text on the left of the cursor, and the other
functions are read off it.
-/

namespace ScriptAssist.Text

/-- The number of bytes of the text's UTF-8 form. -/
def utf8Size : List Char → Nat
  | [] => 0
  | c :: s => c.utf8Size + utf8Size s

@[simp] theorem utf8Size_nil : utf8Size [] = 0 := rfl

@[simp] theorem utf8Size_cons (c : Char) (s : List Char) :
    utf8Size (c :: s) = c.utf8Size + utf8Size s := rfl

@[simp] theorem utf8Size_append (s t : List Char) :
    utf8Size (s ++ t) = utf8Size s + utf8Size t := by
  induction s with
  | nil => simp
  | cons c s ih => simp [ih, Nat.add_assoc]

/-- Moves characters onto `passed`, last one first, while they fit in the given bytes. -/
def passWithin : Nat → List Char → List Char → List Char
  | _, passed, [] => passed
  | room, passed, c :: rest =>
    if c.utf8Size ≤ room then passWithin (room - c.utf8Size) (c :: passed) rest else passed

/-- The text before a cursor: as many whole characters as fit in `offset` bytes. -/
def before (offset : Nat) (s : List Char) : List Char :=
  (passWithin offset [] s).reverse

theorem passWithin_eq (room : Nat) (passed s : List Char) :
    passWithin room passed s = passWithin room [] s ++ passed := by
  induction s generalizing room passed with
  | nil => rfl
  | cons c rest ih =>
    by_cases h : c.utf8Size ≤ room
    · simp only [passWithin, h, if_true]
      rw [ih, ih _ [c]]
      simp
    · simp [passWithin, h]

@[simp] theorem before_nil (offset : Nat) : before offset [] = [] := rfl

theorem before_cons (offset : Nat) (c : Char) (s : List Char) :
    before offset (c :: s) =
      if c.utf8Size ≤ offset then c :: before (offset - c.utf8Size) s else [] := by
  by_cases h : c.utf8Size ≤ offset
  · simp only [before, passWithin, h, if_true]
    rw [passWithin_eq]
    simp
  · simp [before, passWithin, h]

/-- The greatest offset at which a character begins, or the text ends, that is not above the
given one. -/
def clamp (s : List Char) (offset : Nat) : Nat :=
  utf8Size (before offset s)

/-- The part of a text after its last line feed. -/
def lastLine (s : List Char) : List Char :=
  (s.reverse.takeWhile (· != '\n')).reverse

/-- The cursor's line, up to the cursor. -/
def linePart (s : List Char) (offset : Nat) : List Char :=
  lastLine (before offset s)

/-- Whether `part` stands somewhere in the text, as a run of neighbouring characters. -/
def occursIn (part : List Char) : List Char → Bool
  | [] => part.isEmpty
  | c :: rest => if part.isPrefixOf (c :: rest) then true else occursIn part rest

end ScriptAssist.Text
