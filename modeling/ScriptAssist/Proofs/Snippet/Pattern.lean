import Mathlib.Data.List.TakeWhile
import ScriptAssist.Snippet.Marker

/-!
# The pattern of markers

Markers are given by a regular expression: a dollar sign, digits in braces, a colon and a default,
or a dollar sign and digits. A pattern may match the start of a text in several ways. `Pattern.ways`
lists them in the order in which a search prefers them: the first of two alternatives before the
second, and more repetitions before fewer. The first of the ways is the match, and the marker that a
text starts with is just this match (`Pattern.first?_marker`).
-/

namespace ScriptAssist.Snippet

open ScriptAssist.Text

/-- A regular expression. -/
inductive Pattern where
  /-- One character of a set. -/
  | one (set : Char → Bool)
  /-- Characters of a set, and as many of them as possible. -/
  | many (set : Char → Bool)
  /-- What the pattern matches is remembered under a number. -/
  | group (number : Nat) (p : Pattern)
  | seq (p q : Pattern)
  | alt (p q : Pattern)

/-- What a pattern has matched: a text, and the texts remembered. -/
structure Match where
  text : List Char
  groups : List (Nat × List Char) := []
  deriving DecidableEq

/-- One match behind another. -/
def Match.append (m m' : Match) : Match :=
  ⟨m.text ++ m'.text, m.groups ++ m'.groups⟩

namespace Pattern

/-- All numbers of characters of a set that a text starts with, the greatest first. -/
def greedyWays (set : Char → Bool) : List Char → List (Match × List Char)
  | [] => [(⟨[], []⟩, [])]
  | c :: s =>
    if set c then
      (greedyWays set s).map (fun (m, rest) => (⟨c :: m.text, m.groups⟩, rest)) ++
        [(⟨[], []⟩, c :: s)]
    else [(⟨[], []⟩, c :: s)]

/-- The ways in which a pattern matches the start of a text, each with what follows, in order of
preference. -/
def ways : Pattern → List Char → List (Match × List Char)
  | one _, [] => []
  | one set, c :: s => if set c then [(⟨[c], []⟩, s)] else []
  | many set, s => greedyWays set s
  | group number p, s =>
    (p.ways s).map fun (m, rest) => (⟨m.text, (number, m.text) :: m.groups⟩, rest)
  | seq p q, s =>
    (p.ways s).flatMap fun (m, rest) => (q.ways rest).map fun (m', rest') => (m.append m', rest')
  | alt p q, s => p.ways s ++ q.ways s

theorem ways_one_cons (set : Char → Bool) (c : Char) (s : List Char) :
    (one set).ways (c :: s) = if set c then [(⟨[c], []⟩, s)] else [] := rfl

theorem ways_many (set : Char → Bool) (s : List Char) :
    (many set).ways s = greedyWays set s := rfl

theorem ways_group (number : Nat) (p : Pattern) (s : List Char) :
    (group number p).ways s =
      (p.ways s).map fun (m, rest) => (⟨m.text, (number, m.text) :: m.groups⟩, rest) := rfl

theorem ways_seq (p q : Pattern) (s : List Char) :
    (seq p q).ways s = (p.ways s).flatMap fun (m, rest) =>
      (q.ways rest).map fun (m', rest') => (m.append m', rest') := rfl

theorem ways_alt (p q : Pattern) (s : List Char) :
    (alt p q).ways s = p.ways s ++ q.ways s := rfl

/-- The match at the start of a text. -/
def first? (p : Pattern) (s : List Char) : Option Match :=
  (p.ways s).head?.map Prod.fst

/-- A character. -/
def char (c : Char) : Pattern :=
  one (· == c)

/-- Digits of any script, at least one. -/
def digits : Pattern :=
  seq (one isDecimalDigit) (many isDecimalDigit)

/-- The long form, `\$\{(\d+):([^}]*)\}`. -/
def braced : Pattern :=
  seq (char '$') <| seq (char '{') <| seq (group 1 digits) <| seq (char ':') <|
    seq (group 2 (many (· != '}'))) (char '}')

/-- The short form, `\$(\d+)`. -/
def short : Pattern :=
  seq (char '$') (group 3 digits)

/-- The pattern of markers. -/
def marker : Pattern :=
  alt braced short

/-! ## Single characters -/

theorem ways_char_cons (c : Char) (s : List Char) : (char c).ways (c :: s) = [(⟨[c], []⟩, s)] := by
  simp [char, ways_one_cons]

theorem ways_char_of_ne {c d : Char} (h : d ≠ c) (s : List Char) : (char c).ways (d :: s) = [] := by
  simp [char, ways_one_cons, h]

theorem ways_seq_char_cons (c : Char) (q : Pattern) (s : List Char) :
    (seq (char c) q).ways (c :: s) =
      (q.ways s).map fun (m, rest) => (⟨c :: m.text, m.groups⟩, rest) := by
  rw [ways_seq, ways_char_cons, List.flatMap_singleton]
  rfl

theorem ways_seq_char_of_head {c : Char} {s : List Char} (h : s.head? ≠ some c) (q : Pattern) :
    (seq (char c) q).ways s = [] := by
  rw [ways_seq]
  cases s with
  | nil => rfl
  | cons d s =>
    rw [ways_char_of_ne (by simpa using h)]
    rfl

/-! ## Repetition -/

/-- All other ways leave off before a character that could have been taken. -/
def Short (set : Char → Bool) (others : List (Match × List Char)) : Prop :=
  ∀ w ∈ others, ∃ c rest, w.2 = c :: rest ∧ set c = true

theorem exists_ways_many (set : Char → Bool) (s : List Char) :
    ∃ others, (many set).ways s = (⟨s.takeWhile set, []⟩, s.dropWhile set) :: others ∧
      Short set others := by
  rw [ways_many]
  induction s with
  | nil => exact ⟨[], rfl, nofun⟩
  | cons c s ih =>
    by_cases hc : set c = true
    · obtain ⟨others, hways, hshort⟩ := ih
      rw [greedyWays, if_pos hc, hways, List.map_cons, List.cons_append,
        List.takeWhile_cons_of_pos hc, List.dropWhile_cons_of_pos hc]
      refine ⟨_, rfl, fun w hw => ?_⟩
      rcases List.mem_append.1 hw with hw | hw
      · obtain ⟨w', hw', rfl⟩ := List.mem_map.1 hw
        exact hshort w' hw'
      · rw [List.mem_singleton.1 hw]
        exact ⟨c, s, rfl, hc⟩
    · rw [greedyWays, if_neg hc, List.takeWhile_cons_of_neg hc, List.dropWhile_cons_of_neg hc]
      exact ⟨[], rfl, nofun⟩

/-- If what follows cannot begin with a character of the set, only the longest repetition is
left. -/
theorem ways_seq_of_short {p q : Pattern} {s rest : List Char} {m : Match}
    {others : List (Match × List Char)} {set : Char → Bool}
    (hways : p.ways s = (m, rest) :: others) (hshort : Short set others)
    (hq : ∀ c s, set c = true → q.ways (c :: s) = []) :
    (seq p q).ways s = (q.ways rest).map fun (m', rest') => (m.append m', rest') := by
  have hothers : (others.flatMap fun (m, rest) =>
      (q.ways rest).map fun (m', rest') => (m.append m', rest')) = [] := by
    rw [List.flatMap_eq_nil_iff]
    rintro ⟨m, rest⟩ hw
    obtain ⟨c, rest', hrest, hc⟩ := hshort _ hw
    dsimp only at hrest ⊢
    rw [hrest, hq c rest' hc, List.map_nil]
  rw [ways_seq, hways, List.flatMap_cons, hothers, List.append_nil]

theorem exists_ways_group {p : Pattern} {s rest : List Char} {m : Match}
    {others : List (Match × List Char)} {set : Char → Bool}
    (hways : p.ways s = (m, rest) :: others) (hshort : Short set others) (number : Nat) :
    ∃ others', (group number p).ways s =
        (⟨m.text, (number, m.text) :: m.groups⟩, rest) :: others' ∧ Short set others' := by
  rw [ways_group, hways, List.map_cons]
  refine ⟨_, rfl, fun w hw => ?_⟩
  obtain ⟨w', hw', rfl⟩ := List.mem_map.1 hw
  exact hshort w' hw'

/-! ## Digits -/

theorem ways_digits_of_head {s : List Char} (h : Marker.leadingDigits s = []) :
    digits.ways s = [] := by
  rw [digits, ways_seq]
  cases s with
  | nil => rfl
  | cons c s =>
    have hc : isDecimalDigit c = false := by
      by_contra hdigit
      rw [Marker.leadingDigits, List.takeWhile_cons_of_pos (by simpa using hdigit)] at h
      cases h
    simp [ways_one_cons, hc]

theorem exists_ways_digits {s : List Char} (h : Marker.leadingDigits s ≠ []) :
    ∃ others, digits.ways s = (⟨Marker.leadingDigits s, []⟩, Marker.afterDigits s) :: others ∧
      Short isDecimalDigit others := by
  cases s with
  | nil => exact absurd rfl h
  | cons c s =>
    have hc : isDecimalDigit c = true := by
      by_contra hdigit
      exact h (List.takeWhile_cons_of_neg hdigit)
    obtain ⟨others, hways, hshort⟩ := exists_ways_many isDecimalDigit s
    have hone : (one isDecimalDigit).ways (c :: s) = [(⟨[c], []⟩, s)] := by
      rw [ways_one_cons, if_pos hc]
    rw [digits, ways_seq, hone, List.flatMap_singleton]
    dsimp only
    rw [hways, List.map_cons, Marker.leadingDigits, Marker.afterDigits,
      List.takeWhile_cons_of_pos hc, List.dropWhile_cons_of_pos hc]
    refine ⟨_, rfl, fun w hw => ?_⟩
    obtain ⟨w', hw', rfl⟩ := List.mem_map.1 hw
    exact hshort w' hw'

/-- The longest run of digits is the only one that a colon can follow. -/
theorem ways_seq_digits {number : Nat} {q : Pattern} {s : List Char}
    (h : Marker.leadingDigits s ≠ []) (hq : ∀ c s, isDecimalDigit c = true → q.ways (c :: s) = []) :
    (seq (group number digits) q).ways s =
      (q.ways (Marker.afterDigits s)).map fun (m, rest) =>
        (⟨Marker.leadingDigits s ++ m.text, (number, Marker.leadingDigits s) :: m.groups⟩,
          rest) := by
  obtain ⟨others, hways, hshort⟩ := exists_ways_digits h
  obtain ⟨others', hways', hshort'⟩ := exists_ways_group hways hshort number
  rw [ways_seq_of_short hways' hshort' hq]
  rfl

/-! ## Defaults -/

/-- A default ends at the first closing brace. -/
theorem ways_default (body : List Char) :
    (seq (group 2 (many (· != '}'))) (char '}')).ways body =
      if '}' ∈ body then
        [(⟨body.takeWhile (· != '}') ++ ['}'], [(2, body.takeWhile (· != '}'))]⟩,
          (body.dropWhile (· != '}')).tail)]
      else [] := by
  obtain ⟨others, hways, hshort⟩ := exists_ways_many (· != '}') body
  obtain ⟨others', hways', hshort'⟩ := exists_ways_group hways hshort 2
  have hstop : ∀ c s, (c != '}') = true → (char '}').ways (c :: s) = [] :=
    fun c s hc => ways_char_of_ne (by simpa using hc) s
  rw [ways_seq_of_short hways' hshort' hstop]
  split
  · next hbrace =>
    obtain ⟨front, rest, rfl, hfront⟩ := List.eq_append_cons_of_mem hbrace
    have hall : ∀ c ∈ front, (c != '}') = true :=
      fun c hc => bne_iff_ne.2 fun h => hfront (h ▸ hc)
    rw [List.dropWhile_append_of_pos hall, List.dropWhile_cons_of_neg (by simp), ways_char_cons]
    rfl
  · next hbrace =>
    have hall : ∀ c ∈ body, (c != '}') = true :=
      fun c hc => bne_iff_ne.2 fun h => hbrace (h ▸ hc)
    rw [List.dropWhile_eq_nil_iff.2 hall]
    rfl

/-! ## Markers -/

end Pattern

/-- The match of a marker. -/
def Marker.toMatch (m : Marker) : Match where
  text := m.text
  groups :=
    match m.default? with
    | some default => [(1, m.digits), (2, default)]
    | none => [(3, m.digits)]

namespace Pattern

theorem first?_alt (p q : Pattern) (s : List Char) :
    (alt p q).first? s = (p.first? s).or (q.first? s) := by
  rw [first?, ways_alt, List.head?_append]
  cases h : (p.ways s).head? with
  | none => simp [first?, h]
  | some w => simp [first?, h]

theorem digit_ne {c d : Char} (h : isDecimalDigit c = true) (hd : isDecimalDigit d = false) :
    c ≠ d := by
  rintro rfl
  rw [h] at hd
  cases hd

/-- In braces there is one way at most. -/
theorem first?_braced (rest : List Char) :
    braced.first? ('$' :: '{' :: rest) =
      (Marker.leading? ('$' :: '{' :: rest)).map Marker.toMatch := by
  rw [first?, braced, ways_seq_char_cons, ways_seq_char_cons, Marker.leading?]
  by_cases hdigits : Marker.leadingDigits rest = []
  · have hnone : (group 1 digits).ways rest = [] := by
      rw [ways_group, ways_digits_of_head hdigits, List.map_nil]
    rw [ways_seq, hnone]
    split <;> simp [hdigits]
  · have hcolon : ∀ c s, isDecimalDigit c = true →
        (seq (char ':') (seq (group 2 (many (· != '}'))) (char '}'))).ways (c :: s) = [] := by
      intro c s hc
      exact ways_seq_char_of_head (by simpa using digit_ne hc (by decide)) _
    rw [ways_seq_digits hdigits hcolon]
    split
    · next body hbody =>
      rw [hbody, ways_seq_char_cons, ways_default]
      by_cases hbrace : '}' ∈ body <;> simp [hdigits, hbrace, Marker.toMatch, Marker.text]
    · next hother =>
      rw [ways_seq_char_of_head]
      · rfl
      · intro hhead
        obtain ⟨body, hbody⟩ := List.head?_eq_some_iff.1 hhead
        exact hother body hbody

theorem first?_short (rest : List Char) :
    short.first? ('$' :: rest) =
      if Marker.leadingDigits rest ≠ [] then
        some (Marker.toMatch ⟨Marker.leadingDigits rest, none⟩)
      else none := by
  rw [first?, short, ways_seq_char_cons]
  by_cases hdigits : Marker.leadingDigits rest = []
  · rw [ways_group, ways_digits_of_head hdigits, if_neg (by simpa using hdigits)]
    rfl
  · obtain ⟨others, hways, hshort⟩ := exists_ways_digits hdigits
    obtain ⟨others', hways', -⟩ := exists_ways_group hways hshort 3
    rw [hways', if_pos hdigits]
    rfl

/-- The marker that a text starts with is the match at its start. -/
theorem first?_marker (s : List Char) :
    marker.first? s = (Marker.leading? s).map Marker.toMatch := by
  have hnone : ∀ {c : Char} {q : Pattern} {s : List Char}, s.head? ≠ some c →
      (seq (char c) q).first? s = none := by
    intro c q s h
    rw [first?, ways_seq_char_of_head h]
    rfl
  rw [marker, first?_alt]
  cases s with
  | nil => rfl
  | cons c s =>
    by_cases hdollar : c = '$'
    · subst hdollar
      by_cases hbrace : s.head? = some '{'
      · obtain ⟨rest, rfl⟩ := List.head?_eq_some_iff.1 hbrace
        have hdigits : Marker.leadingDigits ('{' :: rest) = [] :=
          List.takeWhile_cons_of_neg (by decide)
        rw [first?_braced, first?_short, if_neg (by simpa using hdigits), Option.or_none]
      · have hbraced : braced.first? ('$' :: s) = none := by
          rw [first?, braced, ways_seq_char_cons, ways_seq_char_of_head hbrace]
          rfl
        rw [hbraced, first?_short, Option.none_or, Marker.leading?]
        · split <;> rfl
        · intro rest hs
          exact hbrace (by rw [hs]; rfl)
    · have hhead : (c :: s).head? ≠ some '$' := by simpa using hdollar
      have hleading : Marker.leading? (c :: s) = none := by
        unfold Marker.leading?
        split
        · next heq => cases heq; exact absurd rfl hdollar
        · next heq => cases heq; exact absurd rfl hdollar
        · rfl
      rw [braced, short, hnone hhead, hnone hhead, hleading]
      rfl

end Pattern

end ScriptAssist.Snippet
