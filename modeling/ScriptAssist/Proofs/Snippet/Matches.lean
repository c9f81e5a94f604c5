import ScriptAssist.Proofs.Snippet.Pattern

/-!
# Matches from left to right

Where a pattern matches in a text, taken from left to right: each match begins as early as one can
behind the match before it (`Pattern.Finds`). A text has one such list for each place to start from
(`Pattern.Finds.unique`). The markers that cutting yields are the matches of the pattern of markers
(`finds_cut`).
-/

namespace ScriptAssist.Snippet

/-- A match and the number of characters before it. -/
structure Occurrence where
  start : Nat
  found : Match
  deriving DecidableEq

/-- The number of characters before what follows the match. -/
def Occurrence.stop (o : Occurrence) : Nat :=
  o.start + o.found.text.length

namespace Pattern

/-- The occurrences of a pattern at or behind a place, none inside another: the first one, and those
at or behind its end. -/
inductive Finds (p : Pattern) (s : List Char) : Nat → List Occurrence → Prop
  | done {place : Nat} (hnone : ∀ i, place ≤ i → p.first? (s.drop i) = none) : Finds p s place []
  | next {place : Nat} {o : Occurrence} {more : List Occurrence} (hle : place ≤ o.start)
      (hnone : ∀ i, place ≤ i → i < o.start → p.first? (s.drop i) = none)
      (hfound : p.first? (s.drop o.start) = some o.found) (hmore : Finds p s o.stop more) :
      Finds p s place (o :: more)

namespace Finds

variable {p : Pattern} {s : List Char} {place : Nat} {found : List Occurrence}

theorem unique (h : Finds p s place found) {found' : List Occurrence}
    (h' : Finds p s place found') : found = found' := by
  induction h generalizing found' with
  | done hnone =>
    cases h' with
    | done => rfl
    | next hle _ hfound => exact nomatch (hnone _ hle).symm.trans hfound
  | @next place o more hle hnone hfound hmore ih =>
    cases h' with
    | done hnone' => exact nomatch (hnone' _ hle).symm.trans hfound
    | @next _ o' more' hle' hnone' hfound' hmore' =>
      have hstart : o.start = o'.start := by
        rcases Nat.lt_trichotomy o.start o'.start with hlt | heq | hgt
        · exact nomatch (hnone' _ hle hlt).symm.trans hfound
        · exact heq
        · exact nomatch (hnone _ hle' hgt).symm.trans hfound'
      obtain ⟨start, m⟩ := o
      obtain ⟨start', m'⟩ := o'
      obtain rfl : start = start' := hstart
      cases hfound.symm.trans hfound'
      rw [ih hmore']

/-- A place at which nothing matches may be passed. -/
theorem skip (h : Finds p s (place + 1) found) (hnone : p.first? (s.drop place) = none) :
    Finds p s place found := by
  cases h with
  | done hnone' =>
    refine .done fun i hi => ?_
    rcases Nat.eq_or_lt_of_le hi with rfl | hlt
    · exact hnone
    · exact hnone' i hlt
  | next hle hnone' hfound hmore =>
    refine .next (Nat.le_of_succ_le hle) (fun i hi hlt => ?_) hfound hmore
    rcases Nat.eq_or_lt_of_le hi with rfl | hlt'
    · exact hnone
    · exact hnone' i hlt' hlt

/-- What is found stands in the text, at its place. -/
theorem first?_eq (h : Finds p s place found) {o : Occurrence} (ho : o ∈ found) :
    p.first? (s.drop o.start) = some o.found := by
  induction h with
  | done => cases ho
  | next hle hnone hfound hmore ih =>
    rcases List.mem_cons.1 ho with rfl | ho
    · exact hfound
    · exact ih ho

/-- The pattern matches somewhere at or behind a place. -/
theorem ne_nil_iff (h : Finds p s place found) :
    found ≠ [] ↔ ∃ i, place ≤ i ∧ p.first? (s.drop i) ≠ none := by
  cases h with
  | done hnone =>
    refine ⟨fun hne => absurd rfl hne, ?_⟩
    rintro ⟨i, hi, hmatch⟩
    exact absurd (hnone i hi) hmatch
  | next hle _ hfound _ =>
    exact ⟨fun _ => ⟨_, hle, by simp [hfound]⟩, fun _ => List.cons_ne_nil _ _⟩

end Finds

/-- The pattern matches somewhere in a text. -/
def OccursIn (p : Pattern) (s : List Char) : Prop :=
  ∃ i, p.first? (s.drop i) ≠ none

theorem Finds.ne_nil_iff_occursIn {p : Pattern} {s : List Char} {found : List Occurrence}
    (h : p.Finds s 0 found) : found ≠ [] ↔ p.OccursIn s := by
  simp [h.ne_nil_iff, OccursIn]

end Pattern

/-! ## Cutting -/

/-- The markers among chunks of which the first one has `place` characters before it. -/
def occurrences : (place : Nat) → List Chunk → List Occurrence
  | _, [] => []
  | place, .char _ :: rest => occurrences (place + 1) rest
  | place, .marker m :: rest => ⟨place, m.toMatch⟩ :: occurrences (place + m.text.length) rest

theorem finds_cutFrom (inside : Nat) (passed s : List Char) :
    Pattern.marker.Finds (passed ++ s) (passed.length + inside)
      (occurrences (passed.length + inside) (cutFrom inside s)) := by
  fun_induction cutFrom inside s generalizing passed with
  | case1 inside =>
    refine .done fun i hi => ?_
    rw [List.append_nil, List.drop_of_length_le (by omega)]
    rfl
  | case2 inside c rest ih =>
    have h := ih (passed ++ [c])
    rw [List.append_assoc, List.singleton_append, List.length_append, List.length_singleton,
      Nat.add_right_comm, Nat.add_assoc] at h
    exact h
  | case3 c rest m hm ih =>
    have hpos : 0 < m.text.length := List.length_pos_iff.2 m.text_ne_nil
    have h := ih (passed ++ [c])
    have hstop : (passed ++ [c]).length + (m.text.length - 1) = passed.length + m.text.length := by
      rw [List.length_append, List.length_singleton]
      omega
    rw [hstop, List.append_assoc, List.singleton_append] at h
    refine .next (Nat.le_refl _) (fun i hi hlt => absurd hi (Nat.not_le.2 hlt)) ?_ h
    rw [Nat.add_zero, List.drop_left, Pattern.first?_marker, hm]
    rfl
  | case4 c rest hm ih =>
    have h := ih (passed ++ [c])
    rw [List.append_assoc, List.singleton_append, List.length_append, List.length_singleton] at h
    refine .skip h ?_
    rw [Nat.add_zero, List.drop_left, Pattern.first?_marker, hm]
    rfl

/-- The markers of a text are the matches of their pattern, from left to right. -/
theorem finds_cut (s : List Char) : Pattern.marker.Finds s 0 (occurrences 0 (cut s)) :=
  finds_cutFrom 0 [] s

end ScriptAssist.Snippet
