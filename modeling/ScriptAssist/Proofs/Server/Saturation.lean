import ScriptAssist.Proofs.Server.Params
import ScriptAssist.Proofs.Text.Places
import ScriptAssist.Proofs.Text.Slices

/-!
# Positions of any size

A message may name a line and a column of any size, and both are kept in 32-bit words. `exactOffset`
finds a place with numbers that have no bound. In a text that a message can bring it finds the place
that the words stand for (`Params.offsetAt_position`), so greater numbers never lead back to an
earlier place.
-/

namespace ScriptAssist

open Json Params

namespace Text

/-! ## Exact numbers -/

/-- Walks along a line, as `columnOffset` does, and counts the units in a number without bound. -/
def exactColumnOffset (column : Nat) : (units offset : Nat) → List Char → Nat
  | _, offset, [] => offset
  | units, offset, c :: rest =>
    if c = '\n' ∨ column ≤ units then offset
    else exactColumnOffset column (units + width16 c) (offset + c.utf8Size) rest

/-- Walks over line feeds, as `lineOffset` does, then along the line reached. -/
def exactLineOffset (column : Nat) : (lines offset : Nat) → List Char → Nat
  | 0, offset, s => exactColumnOffset column 0 offset s
  | _ + 1, offset, [] => offset
  | lines + 1, offset, c :: rest =>
    exactLineOffset column (if c = '\n' then lines else lines + 1) (offset + c.utf8Size) rest

/-- The byte offset of a line and a column. -/
def exactOffset (s : List Char) (line column : Nat) : Nat :=
  exactLineOffset column line 0 s

/-! ## Words -/

/-- As long as the counter is below the greatest word, it does not matter that the column is kept in
a word. -/
theorem saturate_le_iff {units : UInt32} (h : units.toNat < 0xFFFFFFFF) {column : Nat} :
    saturate column ≤ units ↔ column ≤ units.toNat := by
  rw [UInt32.le_iff_toNat_le, toNat_saturate]
  omega

theorem columnOffset_saturate {units : UInt32} {s : List Char}
    (hsize : units.toNat + utf16Size (firstLine s) < 0xFFFFFFFF) (column offset : Nat) :
    columnOffset (saturate column) units offset s =
      exactColumnOffset column units.toNat offset s := by
  induction s generalizing units offset with
  | nil => rfl
  | cons c s ih =>
    rw [columnOffset, exactColumnOffset]
    by_cases hfeed : c = '\n'
    · rw [if_pos (.inl hfeed), if_pos (.inl hfeed)]
    · rw [firstLine_cons hfeed, utf16Size] at hsize
      have hword : units.toNat + width16 c < UInt32.size := by
        have : (0xFFFFFFFF : Nat) < UInt32.size := by decide
        omega
      have hunits := toNat_add_units16 hword
      simp only [hfeed, false_or, saturate_le_iff (by omega : units.toNat < 0xFFFFFFFF)]
      rw [ih (by rw [hunits]; omega), hunits]

/-- The number of lines may be cut down as long as it stays past the last line. -/
theorem lineOffset_saturate {lines lines' : Nat} {s : List Char}
    (hsize : utf8Size s < 0xFFFFFFFF)
    (hlines : lines' = lines ∨ s.count '\n' < lines ∧ s.count '\n' < lines')
    (column offset : Nat) :
    lineOffset (saturate column) lines' offset s = exactLineOffset column lines offset s := by
  induction s generalizing lines lines' offset with
  | nil =>
    cases lines <;> cases lines' <;> rfl
  | cons c s ih =>
    cases lines with
    | zero =>
      obtain rfl : lines' = 0 := by omega
      have hline : (0 : UInt32).toNat + utf16Size (firstLine (c :: s)) < 0xFFFFFFFF := by
        have := utf16Size_firstLine_le (c :: s)
        rw [UInt32.toNat_zero]
        omega
      exact columnOffset_saturate hline column offset
    | succ lines =>
      obtain ⟨lines', rfl⟩ : ∃ n, lines' = n + 1 := Nat.exists_eq_succ_of_ne_zero (by omega)
      rw [utf8Size_cons] at hsize
      rw [lineOffset, exactLineOffset]
      by_cases hfeed : c = '\n'
      · rw [hfeed, List.count_cons_self] at hlines
        rw [if_pos hfeed, if_pos hfeed]
        exact ih (by omega) (by omega) _
      · rw [List.count_cons_of_ne hfeed] at hlines
        rw [if_neg hfeed, if_neg hfeed]
        exact ih (by omega) hlines _

theorem offsetAt_saturate {s : List Char} (hsize : utf8Size s < 0xFFFFFFFF) (line column : Nat) :
    offsetAt s ⟨saturate line, saturate column⟩ = exactOffset s line column := by
  have hfeeds := count_le_utf8Size '\n' s
  refine lineOffset_saturate hsize ?_ column 0
  rw [toNat_saturate]
  omega

/-- Greater numbers never lead to an earlier place. -/
theorem exactOffset_mono {s : List Char} (hsize : utf8Size s < 0xFFFFFFFF)
    {line column line' column' : Nat} (h : line < line' ∨ line = line' ∧ column ≤ column') :
    exactOffset s line column ≤ exactOffset s line' column' := by
  have hword : utf8Size s < UInt32.size := Nat.lt_trans hsize (by decide)
  rw [← offsetAt_saturate hsize, ← offsetAt_saturate hsize]
  by_cases hpast : s.count '\n' < (saturate line').toNat
  · rw [@offsetAt_of_count_lt s ⟨saturate line', _⟩ hpast]
    exact offsetAt_le hword _
  · -- The later line is in the text, so neither line has been cut down.
    have hfeeds := count_le_utf8Size '\n' s
    rw [toNat_saturate] at hpast
    refine offsetAt_mono hword ?_
    simp only [Position.NotAfter, UInt32.lt_iff_toNat_lt, ← UInt32.toNat_inj,
      UInt32.le_iff_toNat_le, toNat_saturate]
    omega

end Text

/-! ## Positions in messages -/

/-- A line and a column of any size stand for the same place whether they are kept in words or not,
the counter of units is large enough for the walk, and greater numbers never lead to an earlier
place. -/
theorem Params.offsetAt_position {s : List Char} (hsize : Text.utf8Size s ≤ Rpc.Frame.maxLength)
    {params : Value} {line character : Nat}
    (hline : params.path? ["position", "line"] = some (.int line))
    (hcharacter : params.path? ["position", "character"] = some (.int character)) :
    ∃ position, Params.position params = .ok position ∧
      position.line.toNat = min line 0xFFFFFFFF ∧
      position.character.toNat = min character 0xFFFFFFFF ∧
      Text.offsetAt s position = Text.exactOffset s line character ∧
      Text.offsetAt? s position = some (Text.exactOffset s line character) ∧
      ∀ line' character' : Nat, (line < line' ∨ line = line' ∧ character ≤ character') →
        Text.exactOffset s line character ≤ Text.exactOffset s line' character' := by
  have hexact : Text.utf8Size s < 0xFFFFFFFF := Nat.lt_of_le_of_lt hsize (by decide)
  have hoffset := Text.offsetAt_saturate hexact line character
  have hslices := Text.offsetAt?_eq (Text.lt_of_le_maxLength hsize)
    ⟨saturate line, saturate character⟩
  exact ⟨_, position_eq_ok hline hcharacter, toNat_saturate line, toNat_saturate character, hoffset,
    hslices.trans (congrArg some hoffset), fun _ _ h => Text.exactOffset_mono hexact h⟩

/-- Parameters with a line that does not fit in a word. -/
def farParams : Value :=
  .object [("position", .object [("line", .int (4294967296 : Nat)), ("character", .int (7 : Nat))])]

/-- The line does not become the first one, which has a place at its seventh column. -/
theorem Params.offsetAt_position_far :
    Text.utf8Size "frappe.\nx".toList ≤ Rpc.Frame.maxLength ∧
      farParams.path? ["position", "line"] = some (.int (4294967296 : Nat)) ∧
      farParams.path? ["position", "character"] = some (.int (7 : Nat)) ∧
      ∃ position, Params.position farParams = .ok position ∧
        Text.offsetAt "frappe.\nx".toList position = 9 := by
  have hsize : Text.utf8Size "frappe.\nx".toList ≤ Rpc.Frame.maxLength := by decide
  have hline : farParams.path? ["position", "line"] = some (.int (4294967296 : Nat)) := rfl
  have hcharacter : farParams.path? ["position", "character"] = some (.int (7 : Nat)) := rfl
  obtain ⟨position, hposition, -, -, hoffset, -, -⟩ :=
    Params.offsetAt_position hsize hline hcharacter
  have hfar : Text.exactOffset "frappe.\nx".toList 4294967296 7 = 9 := by decide
  exact ⟨hsize, hline, hcharacter, position, hposition, hoffset.trans hfar⟩

end ScriptAssist
