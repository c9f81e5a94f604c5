import Mathlib.Data.List.TakeWhile
import ScriptAssist.Proofs.Text.LastLine

/-!
# Lines

Any text is a number of whole lines, each with its line feed, and a rest (`exists_wholeLines`). The
rest begins with the line of that number (`WholeLines.getElem?_splitOn`), and what stands before the
rest has nothing to do with the last line (`WholeLines.lastLine_append`). So a place in a text is
known by the whole lines before it and by a part of the line it is in.
-/

namespace ScriptAssist.Text

/-! ## Offsets -/

theorem before_append (s rest : List Char) : before (utf8Size s) (s ++ rest) = s := by
  induction s with
  | nil =>
    cases rest with
    | nil => rfl
    | cons c rest =>
      have hpos := c.utf8Size_pos
      rw [List.nil_append, before_cons, utf8Size_nil, if_neg (by omega)]
  | cons c s ih =>
    rw [List.cons_append, before_cons, utf8Size_cons, if_pos (Nat.le_add_right _ _),
      Nat.add_sub_cancel_left, ih]

theorem utf8Size_lt_of_append {front rest : List Char} {n : Nat}
    (h : utf8Size (front ++ rest) < n) : utf8Size rest < n := by
  rw [utf8Size_append] at h
  omega

theorem linePart_append (s rest : List Char) :
    linePart (s ++ rest) (utf8Size s) = lastLine s := by
  rw [linePart, before_append]

/-! ## The first line -/

/-- A text up to its first line feed. -/
def firstLine (s : List Char) : List Char :=
  s.takeWhile (· != '\n')

theorem firstLine_cons_feed {c : Char} (hfeed : c = '\n') (s : List Char) :
    firstLine (c :: s) = [] :=
  List.takeWhile_cons_of_neg (by simp [hfeed])

theorem firstLine_cons {c : Char} (hfeed : c ≠ '\n') (s : List Char) :
    firstLine (c :: s) = c :: firstLine s :=
  List.takeWhile_cons_of_pos (by simp [hfeed])

theorem firstLine_append_feed {line : List Char} (hline : '\n' ∉ line) (rest : List Char) :
    firstLine (line ++ '\n' :: rest) = line := by
  induction line with
  | nil => exact firstLine_cons_feed rfl rest
  | cons c line ih =>
    rw [List.mem_cons, not_or] at hline
    rw [List.cons_append, firstLine_cons (Ne.symm hline.1), ih hline.2]

theorem firstLine_eq_self {s : List Char} (h : '\n' ∉ s) : firstLine s = s := by
  induction s with
  | nil => rfl
  | cons c s ih =>
    rw [List.mem_cons, not_or] at h
    rw [firstLine_cons (Ne.symm h.1), ih h.2]

theorem feed_not_mem_firstLine (s : List Char) : '\n' ∉ firstLine s := by
  intro h
  simpa using List.mem_takeWhile_imp h

theorem prefix_firstLine (s : List Char) : firstLine s <+: s :=
  List.takeWhile_prefix _

theorem head?_splitOn (s : List Char) : (s.splitOn '\n').head? = some (firstLine s) := by
  by_cases hfeed : '\n' ∈ s
  · obtain ⟨line, rest, rfl, hline⟩ := List.eq_append_cons_of_mem hfeed
    rw [List.splitOn_append_cons_self_of_not_mem hline, firstLine_append_feed hline]
    rfl
  · rw [List.splitOn_eq_singleton hfeed, firstLine_eq_self hfeed]
    rfl

/-! ## The last line -/

/-- A list is split at the last of a kind. -/
theorem exists_append_last {α : Type} {a : α} {l : List α} (h : a ∈ l) :
    ∃ front back, l = front ++ a :: back ∧ a ∉ back := by
  obtain ⟨back, front, hreverse, hback⟩ := List.eq_append_cons_of_mem (List.mem_reverse.2 h)
  refine ⟨front.reverse, back.reverse, ?_, fun hmem => hback (List.mem_reverse.1 hmem)⟩
  rw [← List.reverse_reverse l, hreverse]
  simp

theorem lastLine_append_feed (front rest : List Char) :
    lastLine (front ++ '\n' :: rest) = lastLine rest := by
  have hstop : ('\n' :: front.reverse).takeWhile (· != '\n') = [] :=
    List.takeWhile_cons_of_neg (by simp)
  have hfront : (front ++ '\n' :: rest).reverse = rest.reverse ++ '\n' :: front.reverse := by
    simp
  rw [lastLine, lastLine, hfront, List.takeWhile_append, hstop, List.append_nil]
  split
  · next hall => rw [(List.takeWhile_prefix _).eq_of_length hall]
  · rfl

theorem lastLine_eq_self {s : List Char} (h : '\n' ∉ s) : lastLine s = s :=
  lastLine_append h []

/-! ## Whole lines -/

/-- A text of `n` lines, each with the line feed that ends it. -/
inductive WholeLines : Nat → List Char → Prop
  | nil : WholeLines 0 []
  | line {n : Nat} {line more : List Char} (hline : '\n' ∉ line) (hmore : WholeLines n more) :
      WholeLines (n + 1) (line ++ '\n' :: more)

theorem WholeLines.count_eq {n : Nat} {front : List Char} (h : WholeLines n front) :
    front.count '\n' = n := by
  induction h with
  | nil => rfl
  | line hline hmore ih => simp [List.count_eq_zero.2 hline, ih]

/-- A text begins with as many whole lines as it has line feeds, or fewer. -/
theorem exists_wholeLines {n : Nat} {s : List Char} (h : n ≤ s.count '\n') :
    ∃ front rest, s = front ++ rest ∧ WholeLines n front := by
  induction n generalizing s with
  | zero => exact ⟨[], s, rfl, .nil⟩
  | succ n ih =>
    obtain ⟨line, rest, rfl, hline⟩ :=
      List.eq_append_cons_of_mem (List.count_pos_iff.1 (Nat.lt_of_lt_of_le n.succ_pos h))
    have hrest : n ≤ rest.count '\n' := by
      simpa [List.count_eq_zero.2 hline] using h
    obtain ⟨front, rest, rfl, hfront⟩ := ih hrest
    exact ⟨line ++ '\n' :: front, rest, by simp, .line hline hfront⟩

/-- A text is all its whole lines and the last line, which has no line feed. -/
theorem exists_wholeLines_count (s : List Char) :
    ∃ front rest, s = front ++ rest ∧ WholeLines (s.count '\n') front ∧ '\n' ∉ rest := by
  obtain ⟨front, rest, hs, hfront⟩ := exists_wholeLines (Nat.le_refl (s.count '\n'))
  refine ⟨front, rest, hs, hfront, List.count_eq_zero.1 ?_⟩
  have hcount : s.count '\n' = front.count '\n' + rest.count '\n' := by
    rw [← List.count_append, ← hs]
  have := hfront.count_eq
  omega

theorem WholeLines.lastLine_eq {n : Nat} {front : List Char} (h : WholeLines n front) :
    lastLine front = [] := by
  induction h with
  | nil => rfl
  | line hline hmore ih => rw [lastLine_append_feed, ih]

/-- The last line of a text does not depend on the whole lines before it. -/
theorem WholeLines.lastLine_append {n : Nat} {front : List Char} (h : WholeLines n front)
    {part : List Char} (hpart : '\n' ∉ part) : lastLine (front ++ part) = part := by
  rw [Text.lastLine_append hpart, h.lastLine_eq, List.nil_append]

/-- Behind `n` whole lines, a text goes on with its line number `n`. -/
theorem WholeLines.getElem?_splitOn {n : Nat} {front : List Char} (h : WholeLines n front)
    (rest : List Char) : ((front ++ rest).splitOn '\n')[n]? = some (firstLine rest) := by
  induction h with
  | nil => exact List.head?_eq_getElem?.symm.trans (head?_splitOn rest)
  | line hline hmore ih =>
    rw [List.append_assoc, List.cons_append, List.splitOn_append_cons_self_of_not_mem hline,
      List.getElem?_cons_succ, ih]

end ScriptAssist.Text
