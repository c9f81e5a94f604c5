import ScriptAssist.Proofs.Text.Lines
import ScriptAssist.Text.Position

/-!
# Positions and parts of lines

The place of a position is the end of a part of the text: the whole lines before the position's
line, and of that line the shortest part that has as many UTF-16 units as the column asks for
(`WholeLines.offsetAt_eq`). The units are counted in a 32-bit word. A character never has more units
than bytes, so no text of less than `UInt32.size` bytes makes the word overflow.
-/

namespace ScriptAssist.Text

/-! ## Units -/

/-- The number of UTF-16 code units of a character. -/
def width16 (c : Char) : Nat :=
  if c.toNat < 0x10000 then 1 else 2

/-- The number of UTF-16 code units of a text. -/
def utf16Size : List Char → Nat
  | [] => 0
  | c :: s => width16 c + utf16Size s

theorem toNat_units16 (c : Char) : (units16 c).toNat = width16 c := by
  unfold units16 width16
  split
  · rfl
  · rfl

theorem width16_le_utf8Size (c : Char) : width16 c ≤ c.utf8Size := by
  have hpos := c.utf8Size_pos
  unfold width16
  split
  · exact hpos
  · next hlarge =>
    have htwo : c.utf8Size ≠ 1 := by
      intro hone
      have hsmall : c.toNat ≤ 127 := Char.utf8Size_eq_one_iff.1 hone
      omega
    omega

theorem utf16Size_le_utf8Size (s : List Char) : utf16Size s ≤ utf8Size s := by
  induction s with
  | nil => rfl
  | cons c s ih => exact Nat.add_le_add (width16_le_utf8Size c) ih

theorem utf16Size_firstLine_le (s : List Char) : utf16Size (firstLine s) ≤ utf8Size s := by
  obtain ⟨rest, hrest⟩ := prefix_firstLine s
  have hle := utf16Size_le_utf8Size (firstLine s)
  have hsize : utf8Size s = utf8Size (firstLine s) + utf8Size rest := by
    rw [← utf8Size_append, hrest]
  omega

/-- The counter is exact as long as the word is large enough. -/
theorem toNat_add_units16 {units : UInt32} {c : Char} (h : units.toNat + width16 c < UInt32.size) :
    (units + units16 c).toNat = units.toNat + width16 c := by
  rw [UInt32.toNat_add, toNat_units16]
  exact Nat.mod_eq_of_lt h

/-! ## Parts of lines -/

/-- As many characters of a line as it takes to have `column` units. -/
def upToColumn : Nat → List Char → List Char
  | _, [] => []
  | column, c :: line =>
    if column = 0 then [] else c :: upToColumn (column - width16 c) line

/-- `part` is the shortest of the parts at the start of a line that have `column` units or more, or
all of a line that has fewer. -/
def Reaches (column : Nat) (line part : List Char) : Prop :=
  if column ≤ utf16Size line then
    part <+: line ∧ column ≤ utf16Size part ∧
      ∀ other, other <+: line → column ≤ utf16Size other → part.length ≤ other.length
  else part = line

theorem upToColumn_cons {column : Nat} (h : column ≠ 0) (c : Char) (line : List Char) :
    upToColumn column (c :: line) = c :: upToColumn (column - width16 c) line := by
  rw [upToColumn, if_neg h]

theorem prefix_upToColumn (column : Nat) (line : List Char) : upToColumn column line <+: line := by
  induction line generalizing column with
  | nil => exact List.prefix_rfl
  | cons c line ih =>
    rw [upToColumn]
    split
    · exact List.nil_prefix
    · exact List.cons_prefix_cons.2 ⟨rfl, ih _⟩

theorem upToColumn_eq_self {column : Nat} {line : List Char} (h : utf16Size line < column) :
    upToColumn column line = line := by
  induction line generalizing column with
  | nil => rfl
  | cons c line ih =>
    rw [utf16Size] at h
    rw [upToColumn_cons (by omega), ih (by omega)]

theorem le_utf16Size_upToColumn {column : Nat} {line : List Char} (h : column ≤ utf16Size line) :
    column ≤ utf16Size (upToColumn column line) := by
  induction line generalizing column with
  | nil => exact h
  | cons c line ih =>
    by_cases hzero : column = 0
    · rw [hzero]
      exact Nat.zero_le _
    · rw [utf16Size] at h
      rw [upToColumn_cons hzero, utf16Size]
      have hline : column - width16 c ≤ utf16Size (upToColumn (column - width16 c) line) :=
        ih (by omega)
      omega

theorem length_upToColumn_le {column : Nat} {line part : List Char} (hpart : part <+: line)
    (h : column ≤ utf16Size part) : (upToColumn column line).length ≤ part.length := by
  induction line generalizing column part with
  | nil => exact Nat.zero_le _
  | cons c line ih =>
    by_cases hzero : column = 0
    · rw [upToColumn, if_pos hzero]
      exact Nat.zero_le _
    · cases part with
      | nil => exact absurd (Nat.le_zero.1 h) hzero
      | cons d part =>
        obtain ⟨rfl, hmore⟩ := List.cons_prefix_cons.1 hpart
        rw [utf16Size] at h
        rw [upToColumn_cons hzero]
        exact Nat.succ_le_succ (ih hmore (by omega))

theorem reaches_upToColumn (column : Nat) (line : List Char) :
    Reaches column line (upToColumn column line) := by
  unfold Reaches
  split
  · next henough =>
    exact ⟨prefix_upToColumn column line, le_utf16Size_upToColumn henough,
      fun _ hother hreach => length_upToColumn_le hother hreach⟩
  · next hfewer => exact upToColumn_eq_self (Nat.not_le.1 hfewer)

/-! ## Columns -/

theorem columnOffset_eq {units : UInt32} {s : List Char}
    (hsize : units.toNat + utf16Size (firstLine s) < UInt32.size) (column : UInt32) (offset : Nat) :
    columnOffset column units offset s =
      offset + utf8Size (upToColumn (column.toNat - units.toNat) (firstLine s)) := by
  induction s generalizing units offset with
  | nil => rfl
  | cons c s ih =>
    rw [columnOffset]
    by_cases hfeed : c = '\n'
    · rw [if_pos (.inl hfeed), firstLine_cons_feed hfeed]
      rfl
    · rw [firstLine_cons hfeed, utf16Size] at hsize
      rw [firstLine_cons hfeed, upToColumn]
      by_cases hreached : column ≤ units
      · have hnone : column.toNat - units.toNat = 0 := Nat.sub_eq_zero_of_le hreached
        rw [if_pos (.inr hreached), if_pos hnone]
        rfl
      · have hsome : ¬ column.toNat - units.toNat = 0 := by
          have : ¬ column.toNat ≤ units.toNat := hreached
          omega
        have hunits : (units + units16 c).toNat = units.toNat + width16 c :=
          toNat_add_units16 (by omega)
        rw [if_neg (by simp [hfeed, hreached]), if_neg hsome, ih (by rw [hunits]; omega), hunits,
          utf8Size_cons, Nat.sub_add_eq, Nat.add_assoc]

/-! ## Lines -/

theorem lineOffset_line {line : List Char} (hline : '\n' ∉ line) (column : UInt32)
    (lines offset : Nat) (rest : List Char) :
    lineOffset column (lines + 1) offset (line ++ '\n' :: rest) =
      lineOffset column lines (offset + utf8Size (line ++ ['\n'])) rest := by
  induction line generalizing offset with
  | nil => rfl
  | cons c line ih =>
    rw [List.mem_cons, not_or] at hline
    rw [List.cons_append, lineOffset, if_neg (Ne.symm hline.1), ih hline.2, List.cons_append,
      utf8Size_cons, Nat.add_assoc]

/-- Whole lines are walked over. -/
theorem WholeLines.lineOffset_append {n : Nat} {front : List Char} (h : WholeLines n front)
    (column : UInt32) (lines offset : Nat) (rest : List Char) :
    lineOffset column (n + lines) offset (front ++ rest) =
      lineOffset column lines (offset + utf8Size front) rest := by
  induction h generalizing offset with
  | nil => rw [Nat.zero_add, List.nil_append, utf8Size_nil, Nat.add_zero]
  | @line n line more hline hmore ih =>
    have hsize : utf8Size (line ++ ['\n']) + utf8Size more = utf8Size (line ++ '\n' :: more) := by
      simp [Nat.add_assoc]
    rw [Nat.add_right_comm, List.append_assoc, List.cons_append, lineOffset_line hline, ih,
      Nat.add_assoc, hsize]

/-- A text without line feeds has no second line. -/
theorem lineOffset_of_not_mem {s : List Char} (h : '\n' ∉ s) (column : UInt32)
    (lines offset : Nat) : lineOffset column (lines + 1) offset s = offset + utf8Size s := by
  induction s generalizing offset with
  | nil => rfl
  | cons c s ih =>
    rw [List.mem_cons, not_or] at h
    rw [lineOffset, if_neg (Ne.symm h.1), ih h.2, utf8Size_cons, Nat.add_assoc]

/-! ## Positions -/

theorem WholeLines.offsetAt_append {position : Position} {front : List Char}
    (h : WholeLines position.line.toNat front) (rest : List Char) :
    offsetAt (front ++ rest) position =
      columnOffset position.character 0 (utf8Size front) rest := by
  have hlines := h.lineOffset_append position.character 0 0 rest
  rw [Nat.add_zero, Nat.zero_add] at hlines
  rw [offsetAt, hlines, lineOffset]

/-- The counter of units is large enough for the lines of a text with less bytes. -/
theorem units_firstLine_lt {s : List Char} (hsize : utf8Size s < UInt32.size) :
    (0 : UInt32).toNat + utf16Size (firstLine s) < UInt32.size := by
  have := utf16Size_firstLine_le s
  rw [UInt32.toNat_zero]
  omega

/-- The text before the place of a position, if the text has the position's line. -/
theorem WholeLines.offsetAt_eq {position : Position} {front : List Char}
    (h : WholeLines position.line.toNat front) {rest : List Char}
    (hsize : utf8Size rest < UInt32.size) :
    offsetAt (front ++ rest) position =
      utf8Size (front ++ upToColumn position.character.toNat (firstLine rest)) := by
  rw [h.offsetAt_append, columnOffset_eq (units_firstLine_lt hsize), utf8Size_append]
  rfl

/-- If the text has the position's line, a part of this line stands before the place of the
position, behind the whole lines. -/
theorem WholeLines.exists_part {position : Position} {front : List Char}
    (h : WholeLines position.line.toNat front) {rest : List Char}
    (hsize : utf8Size rest < UInt32.size) :
    ∃ part back, rest = part ++ back ∧ '\n' ∉ part ∧
      Reaches position.character.toNat (firstLine rest) part ∧
      offsetAt (front ++ rest) position = utf8Size (front ++ part) := by
  have hpart := prefix_upToColumn position.character.toNat (firstLine rest)
  obtain ⟨back, hback⟩ := hpart.trans (prefix_firstLine rest)
  exact ⟨_, back, hback.symm, fun hfeed => feed_not_mem_firstLine rest (hpart.subset hfeed),
    reaches_upToColumn _ _, h.offsetAt_eq hsize⟩

/-- A line that the text does not have is taken for the end of the text. -/
theorem offsetAt_of_count_lt {s : List Char} {position : Position}
    (h : s.count '\n' < position.line.toNat) : offsetAt s position = utf8Size s := by
  obtain ⟨lines, hlines⟩ := Nat.exists_eq_add_of_lt h
  obtain ⟨front, rest, rfl, hfront, hrest⟩ := exists_wholeLines_count s
  rw [offsetAt, hlines, Nat.add_assoc, hfront.lineOffset_append, lineOffset_of_not_mem hrest,
    utf8Size_append, Nat.zero_add]

end ScriptAssist.Text
