import Mathlib.Data.List.DropRight
import ScriptAssist.Proofs.Text.Trim
import ScriptAssist.Text.Cursor

/-!
# The last line of a text

A part without line feeds stands at the end of a text exactly if it stands at the end of the last
line (`suffix_lastLine_iff`), so a test of the cursor's line can be told from all that stands
before the cursor. The same holds if the line is trimmed first, once the blanks at the end of the
text are left out (`suffix_trim_lastLine_iff`).
-/

namespace ScriptAssist.Text

/-- The text without the blanks at its end. Line feeds are kept, and what stands before them. -/
def bare (s : List Char) : List Char :=
  s.rdropWhile fun c => isBlank c && c != '\n'

/-! ## Cutting at an offset -/

/-- The text before a cursor is as much of the text as fits in the offset. -/
theorem exists_append_before (offset : Nat) (s : List Char) :
    ∃ rest, s = before offset s ++ rest ∧ utf8Size (before offset s) ≤ offset ∧
      ∀ c ∈ rest.head?, offset < utf8Size (before offset s) + c.utf8Size := by
  induction s generalizing offset with
  | nil => exact ⟨[], by simp⟩
  | cons c s ih =>
    rw [before_cons]
    by_cases hfits : c.utf8Size ≤ offset
    · obtain ⟨rest, hs, hle, hfull⟩ := ih (offset - c.utf8Size)
      refine ⟨rest, ?_, ?_, fun d hd => ?_⟩
      · simpa [hfits] using hs
      · simp only [hfits, if_true, utf8Size_cons]
        omega
      · have := hfull d hd
        simp only [hfits, if_true, utf8Size_cons]
        omega
    · refine ⟨c :: s, by simp [hfits], by simp [hfits], fun d hd => ?_⟩
      obtain rfl : c = d := by simpa using hd
      simp only [hfits, if_false, utf8Size_nil]
      omega

/-! ## Parts of a text -/

theorem occursIn_iff {part s : List Char} : occursIn part s = true ↔ part <:+: s := by
  induction s with
  | nil => simp [occursIn]
  | cons c s ih =>
    rw [occursIn, List.infix_cons_iff, ← List.isPrefixOf_iff_prefix, ← ih]
    by_cases h : part.isPrefixOf (c :: s) = true <;> simp [h]

/-! ## Suffixes of the last line -/

theorem bne_of_mem_reverse {c : Char} {s : List Char} (h : c ∉ s) :
    ∀ d ∈ s.reverse, (d != c) = true := by
  intro d hd
  simp only [bne_iff_ne, ne_eq]
  rintro rfl
  exact h (List.mem_reverse.1 hd)

theorem lastLine_append {part : List Char} (hfeed : '\n' ∉ part) (front : List Char) :
    lastLine (front ++ part) = lastLine front ++ part := by
  rw [lastLine, List.reverse_append, List.takeWhile_append_of_pos (bne_of_mem_reverse hfeed),
    List.reverse_append, List.reverse_reverse]
  rfl

theorem suffix_lastLine_iff {part : List Char} (hfeed : '\n' ∉ part) (s : List Char) :
    part <:+ lastLine s ↔ part <:+ s := by
  constructor
  · intro h
    exact h.trans (List.rtakeWhile_suffix _ s)
  · rintro ⟨front, rfl⟩
    rw [lastLine_append hfeed]
    exact List.suffix_append _ _

/-! ## Suffixes of the trimmed last line -/

theorem Tight.bare_append {part : List Char} (h : Tight part) (front : List Char) :
    bare (front ++ part) = front ++ part := by
  obtain ⟨start, c, rfl, hc⟩ := h.last
  rw [← List.append_assoc]
  exact List.rdropWhile_concat_neg _ _ _ (by simp [hc])

/-- The last line of a text loses the blanks at its end, and no other line does. -/
theorem lastLine_bare (s : List Char) : lastLine (bare s) = trimEnd (lastLine s) := by
  have hcomm : ∀ r : List Char,
      (r.dropWhile fun c => isBlank c && c != '\n').takeWhile (· != '\n') =
        (r.takeWhile (· != '\n')).dropWhile isBlank := by
    intro r
    induction r with
    | nil => rfl
    | cons c r ih =>
      by_cases hfeed : c = '\n'
      · simp [hfeed]
      · by_cases hblank : isBlank c = true
        · simpa [hfeed, hblank] using ih
        · simp [hfeed, hblank]
  simp only [lastLine, bare, List.rdropWhile, trimEnd, List.reverse_reverse, hcomm]

theorem suffix_trim_lastLine_iff {part : List Char} (h : Tight part) (hfeed : '\n' ∉ part)
    (s : List Char) : part <:+ trim (lastLine s) ↔ part <:+ bare s := by
  rw [suffix_trim_iff h, ← lastLine_bare, suffix_lastLine_iff hfeed]

end ScriptAssist.Text
