import Mathlib.Order.Bounds.Basic
import ScriptAssist.Proofs.Text.Slices

/-!
# Boundaries

A boundary of a text is a byte offset at which a character begins or the text ends, and `clamp`
takes an offset to the greatest boundary that is not above it (`isGreatest_clamp`). The boundary can
be searched for byte by byte: from the offset, or the end of the text if that comes first, downwards
until the byte at hand begins a character. `clampDown?` makes this search and gives nothing if it
would step below zero, which it never does (`exists_clampDown?`). The cursor's line can be sliced
out at the boundary that is found (`lineBefore?_eq`). It is all that stands behind the last line
feed before the cursor (`exists_append_lastLine`).
-/

namespace ScriptAssist.Text

/-! ## The greatest boundary -/

/-- A character begins at the byte offset, or the text ends there. -/
def Boundary (s : List Char) (offset : Nat) : Prop :=
  ∃ front rest, s = front ++ rest ∧ utf8Size front = offset

namespace Boundary

variable {s : List Char} {offset : Nat}

theorem zero (s : List Char) : Boundary s 0 :=
  ⟨[], s, rfl, rfl⟩

theorem le_utf8Size (h : Boundary s offset) : offset ≤ utf8Size s := by
  obtain ⟨front, rest, rfl, rfl⟩ := h
  rw [utf8Size_append]
  exact Nat.le_add_right _ _

end Boundary

theorem boundary_clamp (s : List Char) (offset : Nat) : Boundary s (clamp s offset) := by
  obtain ⟨rest, hs, -, -⟩ := exists_append_before offset s
  exact ⟨before offset s, rest, hs, rfl⟩

theorem clamp_le (s : List Char) (offset : Nat) : clamp s offset ≤ offset := by
  obtain ⟨rest, -, hle, -⟩ := exists_append_before offset s
  exact hle

/-- Characters that fit in the offset are not cut off. -/
theorem le_clamp_append {front : List Char} {offset : Nat} (h : utf8Size front ≤ offset)
    (rest : List Char) : utf8Size front ≤ clamp (front ++ rest) offset := by
  induction front generalizing offset with
  | nil => exact Nat.zero_le _
  | cons c front ih =>
    rw [utf8Size_cons] at h
    rw [List.cons_append, clamp, before_cons, if_pos (Nat.le_of_add_right_le h), utf8Size_cons,
      utf8Size_cons]
    exact Nat.add_le_add_left (ih (Nat.le_sub_of_add_le' h)) _

/-- No boundary up to the offset, or up to the end of the text, is greater. -/
theorem isGreatest_clamp (s : List Char) (offset : Nat) :
    IsGreatest {b | Boundary s b ∧ b ≤ min offset (utf8Size s)} (clamp s offset) := by
  have hboundary := boundary_clamp s offset
  refine ⟨⟨hboundary, Nat.le_min.2 ⟨clamp_le s offset, hboundary.le_utf8Size⟩⟩, ?_⟩
  rintro b ⟨⟨front, rest, rfl, rfl⟩, hle⟩
  exact le_clamp_append (Nat.le_min.1 hle).1 rest

theorem clamp_idem (s : List Char) (offset : Nat) :
    clamp s (clamp s offset) = clamp s offset := by
  obtain ⟨front, rest, hs, hfront⟩ := boundary_clamp s offset
  refine Nat.le_antisymm (clamp_le s _) ?_
  have hle : utf8Size front ≤ clamp (front ++ rest) (clamp s offset) :=
    le_clamp_append hfront.le rest
  rwa [← hs, hfront] at hle

theorem clamp_mono (s : List Char) : Monotone (clamp s) := by
  intro offset offset' hle
  obtain ⟨front, rest, hs, hfront⟩ := boundary_clamp s offset
  have hfits : utf8Size front ≤ offset' := hfront ▸ (clamp_le s offset).trans hle
  have hclamp := le_clamp_append hfits rest
  rwa [← hs, hfront] at hclamp

/-! ## Searching for it -/

/-- Whether a character begins with the byte at the offset, or the text ends there. -/
def atBoundary (s : List Char) (offset : Nat) : Bool :=
  String.Pos.Raw.isValid (String.ofList s) ⟨offset⟩

theorem toNat_pred {offset : UInt64} (h : offset ≠ 0) :
    (offset - 1).toNat + 1 = offset.toNat := by
  have hpos : 0 < offset.toNat :=
    Nat.pos_of_ne_zero fun hzero => h (UInt64.toNat_inj.1 hzero)
  have hone : (1 : UInt64) ≤ offset := UInt64.le_iff_toNat_le.2 hpos
  rw [UInt64.toNat_sub_of_le _ _ hone]
  exact Nat.sub_add_cancel hpos

/-- Steps down, a byte at a time, to where a character begins. There is no step below zero. -/
def stepDown? (s : List Char) (offset : UInt64) : Option UInt64 :=
  if atBoundary s offset.toNat then some offset
  else if _h : offset = 0 then none
  else stepDown? s (offset - 1)
termination_by offset.toNat
decreasing_by exact Nat.lt_of_succ_le (toNat_pred _h).le

/-- Searches for a boundary from the offset downwards, or from the end of the text. -/
def clampDown? (s : List Char) (offset : UInt64) : Option UInt64 :=
  stepDown? s (UInt64.ofNat (min offset.toNat (utf8Size s)))

theorem utf8ByteSize_ofList (s : List Char) : (String.ofList s).utf8ByteSize = utf8Size s := by
  induction s with
  | nil => rfl
  | cons c s ih =>
    rw [String.ofList_cons, String.utf8ByteSize_append, ih, String.utf8ByteSize_singleton,
      utf8Size_cons]

/-- The byte at hand tells whether an offset is a boundary. -/
theorem atBoundary_iff {s : List Char} {offset : Nat} :
    atBoundary s offset = true ↔ Boundary s offset := by
  rw [atBoundary, String.Pos.Raw.isValid_eq_true_iff, String.Pos.Raw.isValid_ofList]
  simp only [utf8ByteSize_ofList]
  constructor
  · rintro ⟨i, rfl⟩
    exact ⟨s.take i, s.drop i, (List.take_append_drop i s).symm, rfl⟩
  · rintro ⟨front, rest, rfl, rfl⟩
    exact ⟨front.length, by rw [List.take_left]⟩

/-- The search ends at the greatest boundary below, since zero is one. -/
theorem exists_stepDown? (s : List Char) (offset : UInt64) :
    ∃ b, stepDown? s offset = some b ∧
      IsGreatest {b | Boundary s b ∧ b ≤ offset.toNat} b.toNat := by
  induction offset using stepDown?.induct s with
  | case1 offset hat =>
    rw [stepDown?, if_pos hat]
    exact ⟨offset, rfl, ⟨atBoundary_iff.1 hat, le_rfl⟩, fun b hb => hb.2⟩
  | case2 hat => exact absurd (atBoundary_iff.2 (Boundary.zero s)) hat
  | case3 offset hat hne ih =>
    obtain ⟨b, hb, ⟨hboundary, hle⟩, hgreatest⟩ := ih
    have hpred := toNat_pred hne
    rw [stepDown?, if_neg hat, dif_neg hne]
    refine ⟨b, hb, ⟨hboundary, by omega⟩, fun other hother => hgreatest ⟨hother.1, ?_⟩⟩
    -- The offset itself is no boundary, so one up to it is below it.
    have hother_ne : other ≠ offset.toNat := by
      rintro rfl
      exact hat (atBoundary_iff.2 hother.1)
    have hother_le : other ≤ offset.toNat := hother.2
    omega

/-- The search finds the boundary that the offset is clamped to. -/
theorem exists_clampDown? (s : List Char) (offset : UInt64) :
    ∃ b, clampDown? s offset = some b ∧ b.toNat = clamp s offset.toNat := by
  have hstart : (UInt64.ofNat (min offset.toNat (utf8Size s))).toNat =
      min offset.toNat (utf8Size s) :=
    UInt64.toNat_ofNat_of_lt' ((Nat.min_le_left _ _).trans_lt offset.toNat_lt)
  obtain ⟨b, hb, hgreatest⟩ := exists_stepDown? s (UInt64.ofNat (min offset.toNat (utf8Size s)))
  rw [hstart] at hgreatest
  exact ⟨b, hb, hgreatest.unique (isGreatest_clamp s offset.toNat)⟩

/-! ## The cursor's line -/

/-- The line of a cursor up to the cursor, sliced out at the boundary that the search finds. -/
def lineBefore? (s : List Char) (offset : UInt64) : Option (List Char) := do
  let stop ← clampDown? s offset
  let part ← sliceTo? s stop.toNat
  match lastFeed? part with
  | some feed => sliceFrom? part (feed + 1)
  | none => some part

theorem lineBefore?_eq (s : List Char) (offset : UInt64) :
    lineBefore? s offset = some (linePart s offset.toNat) := by
  obtain ⟨stop, hstop, hclamp⟩ := exists_clampDown? s offset
  rw [← linePart?_eq, lineBefore?, hstop, linePart?, ← hclamp]
  rfl

theorem feed_not_mem_lastLine (s : List Char) : '\n' ∉ lastLine s := by
  intro hfeed
  have htake := List.mem_takeWhile_imp (List.mem_reverse.1 hfeed)
  simp at htake

/-- What stands before the last line of a text ends with a line feed, if there is anything. -/
theorem exists_append_lastLine (s : List Char) :
    ∃ front, s = front ++ lastLine s ∧ (front = [] ∨ ∃ lines, front = lines ++ ['\n']) := by
  by_cases hfeed : '\n' ∈ s
  · obtain ⟨lines, line, rfl, hline⟩ := exists_append_last hfeed
    rw [lastLine_append_feed, lastLine_eq_self hline]
    exact ⟨lines ++ ['\n'], by simp, .inr ⟨lines, rfl⟩⟩
  · exact ⟨[], (lastLine_eq_self hfeed).symm, .inl rfl⟩

/-- The search for a boundary ends at the greatest one that is above neither the offset nor the end
of the text. To clamp it again changes nothing, and a greater offset is not clamped to a smaller
one. What stands before the cursor is nothing or whole lines, and then the part of the cursor's
line, which is found by slicing and has no line feed. -/
theorem clamp_linePart (s : List Char) (offset : UInt64) :
    (∃ b, clampDown? s offset = some b ∧ b.toNat = clamp s offset.toNat) ∧
    IsGreatest {b | Boundary s b ∧ b ≤ min offset.toNat (utf8Size s)} (clamp s offset.toNat) ∧
    clamp s (clamp s offset.toNat) = clamp s offset.toNat ∧ Monotone (clamp s) ∧
    lineBefore? s offset = some (linePart s offset.toNat) ∧
    '\n' ∉ linePart s offset.toNat ∧
    ∃ front, sliceTo? s (clamp s offset.toNat) = some (front ++ linePart s offset.toNat) ∧
      (front = [] ∨ ∃ lines, front = lines ++ ['\n']) := by
  obtain ⟨front, hbefore, hfront⟩ := exists_append_lastLine (before offset.toNat s)
  have hslice : sliceTo? s (clamp s offset.toNat) = some (front ++ linePart s offset.toNat) :=
    (sliceTo?_clamp s offset.toNat).trans (congrArg some hbefore)
  exact ⟨exists_clampDown? s offset, isGreatest_clamp s offset.toNat, clamp_idem s offset.toNat,
    clamp_mono s, lineBefore?_eq s offset, feed_not_mem_lastLine _, front, hslice, hfront⟩

end ScriptAssist.Text
