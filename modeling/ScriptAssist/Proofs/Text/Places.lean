import ScriptAssist.Proofs.Text.Position
import ScriptAssist.Rpc.Frame

/-!
# Places and their positions

A place between two characters of a text has a position: the number of line feeds before it, and the
number of UTF-16 units between the last of them and the place. The offset of this position is the
place again, and of two positions the later one never has the smaller offset
(`offsetAt_inverse_mono`).
-/

namespace ScriptAssist

/-- The first position is not behind the second one: it is on an earlier line, or on the same line
and in no greater column. -/
def Position.NotAfter (p q : Position) : Prop :=
  p.line < q.line ∨ p.line = q.line ∧ p.character ≤ q.character

namespace Text

/-! ## Columns -/

theorem width16_pos (c : Char) : 0 < width16 c := by
  unfold width16
  split
  · exact Nat.one_pos
  · exact Nat.two_pos

theorem upToColumn_zero (line : List Char) : upToColumn 0 line = [] := by
  cases line <;> rfl

/-- A part of a line is as much of it as it takes to have the part's units. -/
theorem upToColumn_append (part back : List Char) :
    upToColumn (utf16Size part) (part ++ back) = part := by
  induction part with
  | nil => exact upToColumn_zero back
  | cons c part ih =>
    have hpos := width16_pos c
    rw [utf16Size, List.cons_append, upToColumn_cons (by omega), Nat.add_sub_cancel_left, ih]

/-- A greater column takes more of a line. -/
theorem upToColumn_prefix_of_le {column column' : Nat} (h : column ≤ column') (line : List Char) :
    upToColumn column line <+: upToColumn column' line := by
  induction line generalizing column column' with
  | nil => exact List.prefix_rfl
  | cons c line ih =>
    by_cases hzero : column = 0
    · rw [hzero, upToColumn_zero]
      exact List.nil_prefix
    · rw [upToColumn_cons hzero, upToColumn_cons (by omega), List.cons_prefix_cons]
      exact ⟨rfl, ih (by omega)⟩

theorem utf8Size_le_of_isPrefix {part s : List Char} (h : part <+: s) :
    utf8Size part ≤ utf8Size s := by
  obtain ⟨back, rfl⟩ := h
  rw [utf8Size_append]
  exact Nat.le_add_right _ _

/-! ## Lines -/

theorem firstLine_append {part : List Char} (hpart : '\n' ∉ part) (rest : List Char) :
    firstLine (part ++ rest) = part ++ firstLine rest :=
  List.takeWhile_append_of_pos fun _ hc => bne_iff_ne.2 fun h => hpart (h ▸ hc)

theorem WholeLines.append {m n : Nat} {front more : List Char} (h : WholeLines m front)
    (hmore : WholeLines n more) : WholeLines (m + n) (front ++ more) := by
  induction h with
  | nil => rwa [Nat.zero_add]
  | line hline _ ih =>
    rw [Nat.add_right_comm, List.append_assoc, List.cons_append]
    exact .line hline ih

/-- Before a later line there is all of the line that begins behind `front`. -/
theorem WholeLines.exists_later {m n : Nat} {front rest : List Char} (h : WholeLines m front)
    (hlt : m < n) (hn : n ≤ (front ++ rest).count '\n') :
    ∃ more back, rest = firstLine rest ++ more ++ back ∧
      WholeLines n (front ++ (firstLine rest ++ more)) := by
  obtain ⟨lines, rfl⟩ := Nat.exists_eq_add_of_lt hlt
  have hcount : lines + 1 ≤ rest.count '\n' := by
    rw [List.count_append, h.count_eq] at hn
    omega
  obtain ⟨next, back, hrest, hnext⟩ := exists_wholeLines hcount
  cases hnext with
  | @line _ line more hline hmore =>
    have hfirst : firstLine rest = line := by
      rw [hrest, List.append_assoc, List.cons_append, firstLine_append_feed hline]
    rw [hfirst]
    exact ⟨'\n' :: more, back, hrest, h.append (.line hline hmore)⟩

/-! ## Offsets -/

/-- The offset of a place's position is the place. -/
theorem offsetAt_append {front rest : List Char} {position : Position}
    (hsize : utf8Size (front ++ rest) < UInt32.size)
    (hline : position.line.toNat = front.count '\n')
    (hcharacter : position.character.toNat = utf16Size (lastLine front)) :
    offsetAt (front ++ rest) position = utf8Size front := by
  obtain ⟨lines, part, rfl, hlines, hpart⟩ := exists_wholeLines_count front
  rw [← hline] at hlines
  rw [hlines.lastLine_append hpart] at hcharacter
  rw [List.append_assoc] at hsize ⊢
  rw [hlines.offsetAt_eq (utf8Size_lt_of_append hsize), firstLine_append hpart, hcharacter,
    upToColumn_append]

theorem offsetAt_le {s : List Char} (hsize : utf8Size s < UInt32.size) (position : Position) :
    offsetAt s position ≤ utf8Size s := by
  by_cases hlines : position.line.toNat ≤ s.count '\n'
  · obtain ⟨front, rest, rfl, hfront⟩ := exists_wholeLines hlines
    rw [hfront.offsetAt_eq (utf8Size_lt_of_append hsize)]
    refine utf8Size_le_of_isPrefix ((List.prefix_append_right_inj front).2 ?_)
    exact (prefix_upToColumn _ _).trans (prefix_firstLine rest)
  · rw [offsetAt_of_count_lt (Nat.not_le.1 hlines)]

/-- A later position has no smaller offset. -/
theorem offsetAt_mono {s : List Char} (hsize : utf8Size s < UInt32.size) {p q : Position}
    (h : p.NotAfter q) : offsetAt s p ≤ offsetAt s q := by
  by_cases hq : q.line.toNat ≤ s.count '\n'
  · rcases h with hline | ⟨hline, hcharacter⟩
    · -- The earlier line ends before the later one begins.
      have hlt : p.line.toNat < q.line.toNat := hline
      obtain ⟨front, rest, rfl, hfront⟩ := exists_wholeLines (hlt.le.trans hq)
      obtain ⟨more, back, hrest, hlater⟩ := hfront.exists_later hlt hq
      have hp := hfront.offsetAt_eq (utf8Size_lt_of_append hsize)
      have htext : front ++ rest = front ++ (firstLine rest ++ more) ++ back := by
        rw [List.append_assoc, ← hrest]
      rw [htext] at hsize
      have hq := hlater.offsetAt_eq (utf8Size_lt_of_append hsize)
      rw [← htext] at hq
      rw [hp, hq]
      refine utf8Size_le_of_isPrefix (List.IsPrefix.trans ?_ (List.prefix_append _ _))
      exact (List.prefix_append_right_inj front).2
        ((prefix_upToColumn _ _).trans (List.prefix_append _ _))
    · have hp : p.line.toNat ≤ s.count '\n' := hline ▸ hq
      obtain ⟨front, rest, rfl, hfront⟩ := exists_wholeLines hp
      have hfront' : WholeLines q.line.toNat front := hline ▸ hfront
      rw [hfront.offsetAt_eq (utf8Size_lt_of_append hsize),
        hfront'.offsetAt_eq (utf8Size_lt_of_append hsize)]
      exact utf8Size_le_of_isPrefix
        ((List.prefix_append_right_inj front).2 (upToColumn_prefix_of_le hcharacter _))
  · rw [offsetAt_of_count_lt (Nat.not_le.1 hq)]
    exact offsetAt_le hsize p

/-! ## Positions of places -/

theorem count_le_utf8Size (c : Char) (s : List Char) : s.count c ≤ utf8Size s := by
  induction s with
  | nil => exact Nat.le_refl _
  | cons d s ih =>
    have hpos := d.utf8Size_pos
    rw [List.count_cons, utf8Size_cons]
    split <;> omega

/-- Every place of a text that is not too long has a position. -/
theorem exists_position {front : List Char} (hsize : utf8Size front < UInt32.size) :
    ∃ position : Position, position.line.toNat = front.count '\n' ∧
      position.character.toNat = utf16Size (lastLine front) := by
  have hline : front.count '\n' < UInt32.size :=
    Nat.lt_of_le_of_lt (count_le_utf8Size '\n' front) hsize
  have hcharacter : utf16Size (lastLine front) < UInt32.size := by
    obtain ⟨lines, part, rfl, hlines, hpart⟩ := exists_wholeLines_count front
    rw [hlines.lastLine_append hpart]
    exact Nat.lt_of_le_of_lt (utf16Size_le_utf8Size part) (utf8Size_lt_of_append hsize)
  exact ⟨⟨.ofNat (front.count '\n'), .ofNat (utf16Size (lastLine front))⟩,
    UInt32.toNat_ofNat_of_lt hline, UInt32.toNat_ofNat_of_lt hcharacter⟩

theorem lt_of_le_maxLength {n : Nat} (h : n ≤ Rpc.Frame.maxLength) : n < UInt32.size :=
  Nat.lt_of_le_of_lt h (by decide)

/-- In a text that a message can bring, every place is found again from its position, and later
positions have no smaller offsets. -/
theorem offsetAt_inverse_mono {s : List Char} (hsize : utf8Size s ≤ Rpc.Frame.maxLength) :
    (∀ front rest, s = front ++ rest →
      ∃ position : Position, position.line.toNat = front.count '\n' ∧
        position.character.toNat = utf16Size (lastLine front) ∧
        offsetAt s position = utf8Size front) ∧
      ∀ p q : Position, p.NotAfter q → offsetAt s p ≤ offsetAt s q := by
  have hword := lt_of_le_maxLength hsize
  refine ⟨?_, fun p q h => offsetAt_mono hword h⟩
  rintro front rest rfl
  have hfront : utf8Size front < UInt32.size :=
    Nat.lt_of_le_of_lt (utf8Size_le_of_isPrefix (List.prefix_append front rest)) hword
  obtain ⟨position, hline, hcharacter⟩ := exists_position hfront
  exact ⟨position, hline, hcharacter, offsetAt_append hword hline hcharacter⟩

/-- The place behind the emoji on the second line is found from two units, and a column inside the
surrogate pair or past the end of the line does not fall behind a later position. -/
theorem offsetAt_inverse_mono_emoji :
    utf8Size "é\n😀b\n".toList ≤ Rpc.Frame.maxLength ∧
      (∃ position : Position, position.line.toNat = 1 ∧ position.character.toNat = 2 ∧
        offsetAt "é\n😀b\n".toList position = 7) ∧
      offsetAt "é\n😀b\n".toList ⟨1, 1⟩ ≤ offsetAt "é\n😀b\n".toList ⟨1, 9⟩ ∧
      offsetAt "é\n😀b\n".toList ⟨1, 9⟩ ≤ offsetAt "é\n😀b\n".toList ⟨7, 0⟩ := by
  have hsize : utf8Size "é\n😀b\n".toList ≤ Rpc.Frame.maxLength := by decide
  obtain ⟨hinverse, hmono⟩ := offsetAt_inverse_mono hsize
  refine ⟨hsize, hinverse "é\n😀".toList "b\n".toList (by decide), hmono _ _ (.inr ?_),
    hmono _ _ (.inl ?_)⟩
  · exact ⟨rfl, by decide⟩
  · decide

end Text

end ScriptAssist
