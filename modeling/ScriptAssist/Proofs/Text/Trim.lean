import Mathlib.Data.List.TakeWhile
import ScriptAssist.Text.Blank

/-!
# Trimming

Trimming cuts off blanks at both ends and nothing else (`exists_append_trim`). Blanks added at
either end do not change what is left (`trim_append`, `trim_append_blanks`), and a text that has
none there is left as it is, whatever blanks surround it (`Tight.trim`).
-/

namespace ScriptAssist.Text

/-- Every character is a blank. -/
def AllBlank (s : List Char) : Prop :=
  ∀ c ∈ s, isBlank c = true

instance (s : List Char) : Decidable (AllBlank s) :=
  List.decidableBAll (fun c => isBlank c = true) s

/-- A text that begins and ends with a character that is no blank. -/
structure Tight (s : List Char) : Prop where
  head : ∃ c rest, s = c :: rest ∧ isBlank c = false
  last : ∃ front c, s = front ++ [c] ∧ isBlank c = false

/-- Blanks lie below the printable characters of ASCII or above all of ASCII. -/
theorem toNat_of_isBlank {c : Char} (h : isBlank c = true) : c.toNat ≤ 0x20 ∨ 0x85 ≤ c.toNat := by
  have hranges : ∀ range ∈ blanks.ranges, range.2 ≤ 0x20 ∨ 0x85 ≤ range.1 := by decide
  obtain ⟨range, hrange, hlow, hhigh⟩ := CharSet.contains_iff.1 h
  rcases hranges range hrange with hsmall | hlarge <;> omega

theorem AllBlank.nil : AllBlank [] := by
  intro c hc
  cases hc

theorem AllBlank.append {a b : List Char} (ha : AllBlank a) (hb : AllBlank b) :
    AllBlank (a ++ b) := by
  intro c hc
  rcases List.mem_append.1 hc with hc | hc
  · exact ha c hc
  · exact hb c hc

theorem AllBlank.reverse {a : List Char} (ha : AllBlank a) : AllBlank a.reverse :=
  fun c hc => ha c (List.mem_reverse.1 hc)

theorem allBlank_singleton {c : Char} (h : isBlank c = true) : AllBlank [c] := by
  intro d hd
  rwa [List.mem_singleton.1 hd]

theorem Tight.of_forall {s : List Char} (hne : s ≠ []) (h : ∀ c ∈ s, isBlank c = false) :
    Tight s where
  head := by
    obtain ⟨c, rest, rfl⟩ := List.exists_cons_of_ne_nil hne
    exact ⟨c, rest, rfl, h c (by simp)⟩
  last := by
    refine ⟨s.dropLast, s.getLast hne, (List.dropLast_concat_getLast hne).symm, ?_⟩
    exact h _ (List.getLast_mem hne)

theorem trimStart_eq_nil_iff {s : List Char} : trimStart s = [] ↔ AllBlank s := by
  rw [trimStart, List.dropWhile_eq_nil_iff]
  rfl

theorem trimStart_append {a : List Char} (ha : AllBlank a) (s : List Char) :
    trimStart (a ++ s) = trimStart s := by
  rw [trimStart, List.dropWhile_append, if_pos]
  · rfl
  · exact List.isEmpty_iff.2 (trimStart_eq_nil_iff.2 ha)

theorem trimEnd_append {b : List Char} (hb : AllBlank b) (s : List Char) :
    trimEnd (s ++ b) = trimEnd s := by
  rw [trimEnd, List.reverse_append]
  exact congrArg List.reverse (trimStart_append hb.reverse s.reverse)

/-- Blanks in front do not matter. -/
theorem trim_append {a : List Char} (ha : AllBlank a) (s : List Char) :
    trim (a ++ s) = trim s := by
  rw [trim, trimStart_append ha, trim]

theorem trim_eq_nil_of_allBlank {s : List Char} (hs : AllBlank s) : trim s = [] := by
  rw [trim, trimStart_eq_nil_iff.2 hs, trimEnd_nil]

/-- Blanks behind do not matter. -/
theorem trim_append_blanks {b : List Char} (hb : AllBlank b) (s : List Char) :
    trim (s ++ b) = trim s := by
  -- If nothing is left of the text itself, the blanks behind it are cut off from the front.
  by_cases hs : AllBlank s
  · rw [trim_eq_nil_of_allBlank hs, trim_eq_nil_of_allBlank (hs.append hb)]
  · have hne : ¬ (s.dropWhile isBlank).isEmpty := by
      rw [List.isEmpty_iff]
      exact fun h => hs (trimStart_eq_nil_iff.1 h)
    have hstart : trimStart (s ++ b) = trimStart s ++ b := by
      rw [trimStart, List.dropWhile_append, if_neg hne, trimStart]
    rw [trim, hstart, trimEnd_append hb, trim]

/-- Nothing but blanks is cut off behind. -/
theorem exists_append_trimEnd (s : List Char) : ∃ b, s = trimEnd s ++ b ∧ AllBlank b := by
  obtain ⟨b, hb, hblank⟩ := exists_append_trimStart s.reverse
  refine ⟨b.reverse, ?_, AllBlank.reverse hblank⟩
  have h := congrArg List.reverse hb
  rwa [List.reverse_reverse, List.reverse_append] at h

/-- Nothing but blanks is cut off. -/
theorem exists_append_trim (s : List Char) :
    ∃ a b, s = a ++ trim s ++ b ∧ AllBlank a ∧ AllBlank b := by
  obtain ⟨a, ha, hablank⟩ := exists_append_trimStart s
  obtain ⟨b, hb, hbblank⟩ := exists_append_trimEnd (trimStart s)
  refine ⟨a, b, ?_, hablank, hbblank⟩
  rw [List.append_assoc, trim, ← hb]
  exact ha

theorem trim_trimEnd (s : List Char) : trim (trimEnd s) = trim s := by
  obtain ⟨b, hb, hblank⟩ := exists_append_trimEnd s
  have h := trim_append_blanks hblank (trimEnd s)
  rw [← hb] at h
  exact h.symm

theorem trim_eq_nil_iff {s : List Char} : trim s = [] ↔ AllBlank s := by
  constructor
  · intro h
    obtain ⟨a, b, hs, ha, hb⟩ := exists_append_trim s
    rw [hs, h, List.append_nil]
    exact ha.append hb
  · exact trim_eq_nil_of_allBlank

/-- What stands before a character that is no blank is kept. -/
theorem trimEnd_append_cons {c : Char} (hc : isBlank c = false) (s t : List Char) :
    trimEnd (s ++ c :: t) = s ++ c :: trimEnd t := by
  have hstop : (c :: s.reverse).dropWhile isBlank = c :: s.reverse :=
    List.dropWhile_cons_of_neg (by simpa using hc)
  simp only [trimEnd, List.reverse_append, List.reverse_cons, List.append_assoc,
    List.singleton_append, List.dropWhile_append, hstop]
  split
  · next hempty =>
    rw [List.isEmpty_iff.1 hempty]
    simp
  · simp

/-- A tight text is what is left of it, whatever blanks surround it. -/
theorem Tight.trim {s a b : List Char} (hs : Tight s) (ha : AllBlank a) (hb : AllBlank b) :
    Text.trim (a ++ s ++ b) = s := by
  obtain ⟨c, rest, hhead, hc⟩ := hs.head
  obtain ⟨front, d, hlast, hd⟩ := hs.last
  have hstart : trimStart s = s := by
    rw [hhead]
    exact List.dropWhile_cons_of_neg (by simpa using hc)
  have hend : trimEnd s = s := by
    rw [hlast, trimEnd, List.reverse_append, List.reverse_singleton, List.singleton_append,
      List.dropWhile_cons_of_neg (by simpa using hd), List.reverse_cons, List.reverse_reverse]
  rw [trim_append_blanks hb, trim_append ha, Text.trim, hstart, hend]

/-! ## Prefixes -/

/-- Blanks at the end do not matter for a part at the beginning that does not end with one. -/
theorem Tight.prefix_trimEnd_iff {part : List Char} (h : Tight part) (s : List Char) :
    part <+: trimEnd s ↔ part <+: s := by
  constructor
  · intro hpart
    obtain ⟨b, hs, -⟩ := exists_append_trimEnd s
    exact hpart.trans ⟨b, hs.symm⟩
  · rintro ⟨rest, rfl⟩
    obtain ⟨start, c, rfl, hc⟩ := h.last
    rw [List.append_assoc, List.singleton_append, trimEnd_append_cons hc]
    exact ⟨trimEnd rest, by rw [List.append_assoc, List.singleton_append]⟩

/-! ## Suffixes -/

/-- What stands behind a character that is no blank is kept. -/
theorem trimStart_append_cons {c : Char} (hc : isBlank c = false) (s t : List Char) :
    trimStart (s ++ c :: t) = trimStart s ++ c :: t := by
  have hstop : (c :: t).dropWhile isBlank = c :: t :=
    List.dropWhile_cons_of_neg (by simpa using hc)
  rw [trimStart, List.dropWhile_append, hstop]
  split
  · next hempty =>
    rw [trimStart, List.isEmpty_iff.1 hempty]
    rfl
  · rfl

theorem trimEnd_suffix_append (a s : List Char) : trimEnd s <:+ trimEnd (a ++ s) := by
  rw [trimEnd, trimEnd, List.reverse_append, List.reverse_suffix, List.dropWhile_append]
  split
  · next hempty =>
    rw [List.isEmpty_iff.1 hempty]
    exact List.nil_prefix
  · exact List.prefix_append _ _

theorem Tight.trimEnd_append {part : List Char} (h : Tight part) (front : List Char) :
    trimEnd (front ++ part) = front ++ part := by
  obtain ⟨start, c, rfl, hc⟩ := h.last
  rw [← List.append_assoc, trimEnd_append_cons hc, trimEnd_nil]

/-- Blanks at the beginning do not matter for a part that neither begins nor ends with one. -/
theorem suffix_trim_iff {part : List Char} (h : Tight part) (s : List Char) :
    part <:+ trim s ↔ part <:+ trimEnd s := by
  constructor
  · intro hpart
    obtain ⟨a, hs, -⟩ := exists_append_trimStart s
    have hsuffix : trim s <:+ trimEnd s := by
      conv => rhs; rw [hs]
      exact trimEnd_suffix_append a (trimStart s)
    exact hpart.trans hsuffix
  · rintro ⟨front, hfront⟩
    obtain ⟨c, rest, hhead, hc⟩ := h.head
    rw [← trim_trimEnd, ← hfront, hhead, trim, trimStart_append_cons hc, ← hhead, h.trimEnd_append]
    exact List.suffix_append _ _

end ScriptAssist.Text
