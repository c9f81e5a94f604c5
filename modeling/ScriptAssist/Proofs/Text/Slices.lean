import ScriptAssist.Proofs.Text.Position
import ScriptAssist.Rpc.Frame

/-!
# Slices

The place of a position can be found by slicing the text again and again: from the start of a line
to the end of the text, from there to the line's end, and back from the place found to the start of
its line. A slice between two byte offsets exists only if each of them is the place where a
character begins, or the end of the text. `offsetAt?` and `linePart?` work with slices, and give
nothing if a slice does not exist, or if the counter of units overflows. Neither happens in a text
that a message can bring: they find what `offsetAt` and `linePart` do (`offsetAt?_eq`,
`linePart?_eq`).
-/

namespace ScriptAssist.Text

/-! ## Slicing -/

/-- Cuts a text in two at an offset. There is no cut inside a character or past the end. -/
def cut? : Nat → List Char → Option (List Char × List Char)
  | 0, s => some ([], s)
  | _ + 1, [] => none
  | offset + 1, c :: s =>
    if c.utf8Size ≤ offset + 1 then
      (cut? (offset + 1 - c.utf8Size) s).map fun (front, rest) => (c :: front, rest)
    else none

/-- The text from an offset on. -/
def sliceFrom? (s : List Char) (start : Nat) : Option (List Char) :=
  (cut? start s).map Prod.snd

/-- The text up to an offset. -/
def sliceTo? (s : List Char) (stop : Nat) : Option (List Char) :=
  (cut? stop s).map Prod.fst

/-- The text between two offsets. -/
def slice? (s : List Char) (start stop : Nat) : Option (List Char) := do
  sliceFrom? (← sliceTo? s stop) start

theorem cut?_append (front rest : List Char) :
    cut? (utf8Size front) (front ++ rest) = some (front, rest) := by
  induction front with
  | nil => rw [utf8Size_nil, List.nil_append, cut?]
  | cons c front ih =>
    obtain ⟨size, hsize⟩ := Nat.exists_eq_succ_of_ne_zero c.utf8Size_pos.ne'
    have hsucc : utf8Size (c :: front) = size + utf8Size front + 1 := by
      rw [utf8Size_cons, hsize]
      omega
    have hrest : size + utf8Size front + 1 - c.utf8Size = utf8Size front := by omega
    rw [hsucc, List.cons_append, cut?, if_pos (by omega), hrest, ih]
    rfl

theorem sliceFrom?_append (front rest : List Char) :
    sliceFrom? (front ++ rest) (utf8Size front) = some rest := by
  rw [sliceFrom?, cut?_append]
  rfl

theorem sliceTo?_append (front rest : List Char) :
    sliceTo? (front ++ rest) (utf8Size front) = some front := by
  rw [sliceTo?, cut?_append]
  rfl

theorem slice?_append (front part rest : List Char) :
    slice? (front ++ (part ++ rest)) (utf8Size front) (utf8Size front + utf8Size part) =
      some part := by
  rw [slice?, ← utf8Size_append, ← List.append_assoc, sliceTo?_append]
  exact sliceFrom?_append front part

/-! ## Searching -/

/-- The offset of the first line feed. -/
def firstFeed? : List Char → Option Nat
  | [] => none
  | c :: s => if c = '\n' then some 0 else (firstFeed? s).map (c.utf8Size + ·)

/-- The offset of the last line feed. -/
def lastFeed? : List Char → Option Nat
  | [] => none
  | c :: s =>
    match lastFeed? s with
    | some feed => some (c.utf8Size + feed)
    | none => if c = '\n' then some 0 else none

theorem firstFeed?_append {line : List Char} (hline : '\n' ∉ line) (rest : List Char) :
    firstFeed? (line ++ '\n' :: rest) = some (utf8Size line) := by
  induction line with
  | nil => rfl
  | cons c line ih =>
    rw [List.mem_cons, not_or] at hline
    rw [List.cons_append, firstFeed?, if_neg (Ne.symm hline.1), ih hline.2]
    rfl

theorem firstFeed?_eq_none {s : List Char} (h : '\n' ∉ s) : firstFeed? s = none := by
  induction s with
  | nil => rfl
  | cons c s ih =>
    rw [List.mem_cons, not_or] at h
    rw [firstFeed?, if_neg (Ne.symm h.1), ih h.2]
    rfl

theorem lastFeed?_eq_none {s : List Char} (h : '\n' ∉ s) : lastFeed? s = none := by
  induction s with
  | nil => rfl
  | cons c s ih =>
    rw [List.mem_cons, not_or] at h
    rw [lastFeed?, ih h.2]
    exact if_neg (Ne.symm h.1)

theorem lastFeed?_append {line : List Char} (hline : '\n' ∉ line) (front : List Char) :
    lastFeed? (front ++ '\n' :: line) = some (utf8Size front) := by
  induction front with
  | nil =>
    rw [List.nil_append, lastFeed?, lastFeed?_eq_none hline]
    rfl
  | cons c front ih =>
    rw [List.cons_append, lastFeed?, ih]
    rfl

/-! ## The place of a position -/

/-- Goes `lines` lines further from the start of a line. The text may have fewer. -/
def lineStart? (s : List Char) : Nat → Nat → Option (Option Nat)
  | 0, start => some (some start)
  | lines + 1, start => do
    let rest ← sliceFrom? s start
    match firstFeed? rest with
    | some feed => lineStart? s lines (start + feed + 1)
    | none => some none

/-- Goes along a line up to a column, or to the line's end at `stop`. The counter of units must not
overflow. -/
def columnOffset? (column : UInt32) (stop : Nat) : UInt32 → Nat → List Char → Option Nat
  | _, _, [] => some stop
  | units, offset, c :: line =>
    if column ≤ units then some offset
    else if units.toNat + (units16 c).toNat < UInt32.size then
      columnOffset? column stop (units + units16 c) (offset + c.utf8Size) line
    else none

/-- The end of the line that starts at `start`, where the text goes on with `rest`. -/
def lineStop (s : List Char) (start : Nat) (rest : List Char) : Nat :=
  match firstFeed? rest with
  | some feed => start + feed
  | none => utf8Size s

/-- The byte offset of a position, found by slicing. -/
def offsetAt? (s : List Char) (position : Position) : Option Nat := do
  match ← lineStart? s position.line.toNat 0 with
  | none => some (utf8Size s)
  | some start =>
    let rest ← sliceFrom? s start
    let stop := lineStop s start rest
    let line ← slice? s start stop
    columnOffset? position.character stop 0 start line

/-- The cursor's line up to the cursor, found by slicing. -/
def linePart? (s : List Char) (offset : Nat) : Option (List Char) := do
  let part ← sliceTo? s (clamp s offset)
  match lastFeed? part with
  | some feed => sliceFrom? part (feed + 1)
  | none => some part

theorem WholeLines.lineStart?_append {n : Nat} {front : List Char} (h : WholeLines n front)
    (passed rest : List Char) (lines : Nat) :
    lineStart? (passed ++ (front ++ rest)) (n + lines) (utf8Size passed) =
      lineStart? (passed ++ (front ++ rest)) lines (utf8Size (passed ++ front)) := by
  induction h generalizing passed with
  | nil => simp
  | @line n line more hline hmore ih =>
    have hnext : utf8Size passed + utf8Size line + 1 = utf8Size (passed ++ (line ++ ['\n'])) := by
      rw [utf8Size_append, utf8Size_append, Nat.add_assoc]
      rfl
    have hrest : line ++ '\n' :: more ++ rest = line ++ '\n' :: (more ++ rest) := by simp
    have htext : passed ++ (line ++ '\n' :: more ++ rest) =
        passed ++ (line ++ ['\n']) ++ (more ++ rest) := by simp
    have hpassed : passed ++ (line ++ '\n' :: more) = passed ++ (line ++ ['\n']) ++ more := by simp
    rw [Nat.add_right_comm, lineStart?, sliceFrom?_append]
    simp only [Option.bind_eq_bind, Option.bind_some, hrest, firstFeed?_append hline, hnext]
    rw [← hrest, htext, ih, hpassed]

theorem lineStop_append (front rest : List Char) :
    lineStop (front ++ rest) (utf8Size front) rest = utf8Size (front ++ firstLine rest) := by
  unfold lineStop
  by_cases hfeed : '\n' ∈ rest
  · obtain ⟨line, more, rfl, hline⟩ := List.eq_append_cons_of_mem hfeed
    rw [firstFeed?_append hline, firstLine_append_feed hline]
    exact (utf8Size_append front line).symm
  · rw [firstFeed?_eq_none hfeed, firstLine_eq_self hfeed]

theorem columnOffset?_firstLine {units : UInt32} {s : List Char}
    (hsize : units.toNat + utf16Size (firstLine s) < UInt32.size) (column : UInt32)
    (offset : Nat) :
    columnOffset? column (offset + utf8Size (firstLine s)) units offset (firstLine s) =
      some (columnOffset column units offset s) := by
  induction s generalizing units offset with
  | nil => rfl
  | cons c s ih =>
    rw [columnOffset]
    by_cases hfeed : c = '\n'
    · rw [if_pos (.inl hfeed), firstLine_cons_feed hfeed]
      rfl
    · rw [firstLine_cons hfeed, utf16Size] at hsize
      rw [firstLine_cons hfeed, columnOffset?]
      by_cases hreached : column ≤ units
      · rw [if_pos hreached, if_pos (.inr hreached)]
      · have hunits : (units + units16 c).toNat = units.toNat + width16 c :=
          toNat_add_units16 (by omega)
        rw [if_neg hreached, if_pos (by rw [toNat_units16]; omega),
          if_neg (not_or.2 ⟨hfeed, hreached⟩), utf8Size_cons, ← Nat.add_assoc]
        exact ih (by rw [hunits]; omega) _

/-- No slice that it takes to find the place of a position is missing. -/
theorem offsetAt?_eq {s : List Char} (hsize : utf8Size s < UInt32.size) (position : Position) :
    offsetAt? s position = some (offsetAt s position) := by
  by_cases hlines : position.line.toNat ≤ s.count '\n'
  · obtain ⟨front, rest, rfl, hfront⟩ := exists_wholeLines hlines
    have hstart : lineStart? (front ++ rest) position.line.toNat 0 = some (some (utf8Size front)) :=
      hfront.lineStart?_append [] rest 0
    have hline : slice? (front ++ rest) (utf8Size front) (utf8Size (front ++ firstLine rest)) =
        some (firstLine rest) := by
      obtain ⟨back, hback⟩ := prefix_firstLine rest
      have hslice := slice?_append front (firstLine rest) back
      rwa [hback, ← utf8Size_append] at hslice
    have hunits := units_firstLine_lt (utf8Size_lt_of_append hsize)
    rw [offsetAt?, hstart]
    simp only [Option.bind_eq_bind, Option.bind_some, sliceFrom?_append, lineStop_append, hline]
    rw [utf8Size_append, columnOffset?_firstLine hunits, hfront.offsetAt_append]
  · have hpast := Nat.not_le.1 hlines
    have hoffset := offsetAt_of_count_lt hpast
    obtain ⟨lines, hsum⟩ := Nat.exists_eq_add_of_lt hpast
    obtain ⟨front, rest, rfl, hfront, hrest⟩ := exists_wholeLines_count s
    have hstart : lineStart? (front ++ rest) position.line.toNat 0 = some none := by
      rw [hsum]
      refine (hfront.lineStart?_append [] rest (lines + 1)).trans ?_
      rw [lineStart?, List.nil_append, List.nil_append, sliceFrom?_append]
      simp only [Option.bind_eq_bind, Option.bind_some, firstFeed?_eq_none hrest]
    rw [offsetAt?, hstart, hoffset]
    rfl

/-- There is a slice up to the cursor, wherever it is. -/
theorem sliceTo?_clamp (s : List Char) (offset : Nat) :
    sliceTo? s (clamp s offset) = some (before offset s) := by
  obtain ⟨rest, hs, -, -⟩ := exists_append_before offset s
  have hcut := sliceTo?_append (before offset s) rest
  rwa [← hs] at hcut

/-- No slice that it takes to find the cursor's line is missing, wherever the cursor is. -/
theorem linePart?_eq (s : List Char) (offset : Nat) :
    linePart? s offset = some (linePart s offset) := by
  rw [linePart?, sliceTo?_clamp, linePart]
  simp only [Option.bind_eq_bind, Option.bind_some]
  generalize before offset s = part
  by_cases hfeed : '\n' ∈ part
  · obtain ⟨front, line, rfl, hline⟩ := exists_append_last hfeed
    rw [lastFeed?_append hline, lastLine_append_feed, lastLine_eq_self hline]
    have hcut := sliceFrom?_append (front ++ ['\n']) line
    rwa [List.append_assoc, utf8Size_append] at hcut
  · rw [lastFeed?_eq_none hfeed, lastLine_eq_self hfeed]

/-! ## Positions in messages -/

/-- In a text that a message can bring, a position stands for a place between two characters. Past
the last line it is the end of the text. In a line, what stands before it is the shortest part of
the line that has as many units as the position asks for. -/
theorem linePart_offsetAt {s : List Char} (hsize : utf8Size s ≤ Rpc.Frame.maxLength)
    (position : Position) :
    (∃ front rest, s = front ++ rest ∧ utf8Size front = offsetAt s position) ∧
      offsetAt s position ≤ utf8Size s ∧
      (s.count '\n' < position.line.toNat → offsetAt s position = utf8Size s) ∧
      (position.line.toNat ≤ s.count '\n' →
        ∃ line, (s.splitOn '\n')[position.line.toNat]? = some line ∧
          Reaches position.character.toNat line (linePart s (offsetAt s position))) ∧
      offsetAt? s position = some (offsetAt s position) ∧
      ∀ offset, linePart? s offset = some (linePart s offset) := by
  have hword : utf8Size s < UInt32.size := by
    have hmax : Rpc.Frame.maxLength < UInt32.size := by decide
    omega
  by_cases hlines : position.line.toNat ≤ s.count '\n'
  · obtain ⟨front, rest, rfl, hfront⟩ := exists_wholeLines hlines
    obtain ⟨part, back, rfl, hpart, hreaches, hoffset⟩ :=
      hfront.exists_part (utf8Size_lt_of_append hword)
    refine ⟨⟨front ++ part, back, by simp, hoffset.symm⟩, ?_, fun hpast => ?_, fun _ => ?_,
      offsetAt?_eq hword position, linePart?_eq _⟩
    · rw [hoffset, ← List.append_assoc, utf8Size_append (front ++ part)]
      exact Nat.le_add_right _ _
    · omega
    · refine ⟨_, hfront.getElem?_splitOn _, ?_⟩
      rwa [hoffset, ← List.append_assoc, linePart_append, hfront.lastLine_append hpart]
  · have hoffset := offsetAt_of_count_lt (Nat.not_le.1 hlines)
    exact ⟨⟨s, [], (List.append_nil s).symm, hoffset.symm⟩, hoffset.le, fun _ => hoffset,
      fun hline => absurd hline hlines, offsetAt?_eq hword position, linePart?_eq s⟩

/-- A column in the middle of a surrogate pair stands for the place behind it. -/
theorem linePart_offsetAt_surrogates :
    utf8Size "a😀b\nc".toList ≤ Rpc.Frame.maxLength ∧
      offsetAt "a😀b\nc".toList ⟨0, 2⟩ = 5 ∧
      (∃ line, ("a😀b\nc".toList.splitOn '\n')[0]? = some line ∧
        Reaches 2 line (linePart "a😀b\nc".toList (offsetAt "a😀b\nc".toList ⟨0, 2⟩))) ∧
      offsetAt "a😀b\nc".toList ⟨2, 0⟩ = utf8Size "a😀b\nc".toList := by
  have hsize : utf8Size "a😀b\nc".toList ≤ Rpc.Frame.maxLength := by decide
  obtain ⟨-, -, -, hline, -, -⟩ := linePart_offsetAt hsize ⟨0, 2⟩
  obtain ⟨-, -, hpast, -, -, -⟩ := linePart_offsetAt hsize ⟨2, 0⟩
  exact ⟨hsize, by decide, hline (by decide), hpast (by decide)⟩

end ScriptAssist.Text
