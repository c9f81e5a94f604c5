import ScriptAssist.Text.DecimalDigit

/-!
# Markers

The notation in which templates are written marks a slot as `$1`, or as `${1:text}` with a
default. `leading?` finds a marker at the start of a text, and `cut` finds all markers of a text
from left to right, each as early as possible and none inside another. Cutting loses nothing:
the chunks' own texts, put together, are the text that was cut (`text_cut`).

Digits of every script count for finding a marker. Only ASCII digits make a number, so a marker
can be found whose number cannot be read.
-/

namespace ScriptAssist.Snippet

open ScriptAssist.Text

/-- A marker as it is written. -/
structure Marker where
  digits : List Char
  /-- The text between the colon and the closing brace; none for the short form. -/
  default? : Option (List Char)
  deriving DecidableEq, Repr

namespace Marker

/-- The marker's own text. -/
def text (m : Marker) : List Char :=
  match m.default? with
  | none => '$' :: m.digits
  | some default => '$' :: '{' :: m.digits ++ ':' :: default ++ ['}']

/-- The decimal digits that a text starts with. -/
def leadingDigits (s : List Char) : List Char :=
  s.takeWhile isDecimalDigit

/-- The text behind the decimal digits that it starts with. -/
def afterDigits (s : List Char) : List Char :=
  s.dropWhile isDecimalDigit

/-- The marker that a text starts with. The digits are as many as follow one another, and the
default ends at the first closing brace. -/
def leading? : List Char → Option Marker
  | '$' :: '{' :: rest =>
    match afterDigits rest with
    | ':' :: body =>
      if leadingDigits rest ≠ [] ∧ '}' ∈ body then
        some ⟨leadingDigits rest, some (body.takeWhile (· != '}'))⟩
      else none
    | _ => none
  | '$' :: rest => if leadingDigits rest ≠ [] then some ⟨leadingDigits rest, none⟩ else none
  | _ => none

/-- The value of ASCII digits read in base ten; none if another character is among them. -/
def decimal? (digits : List Char) : Option Nat :=
  digits.foldl (fun value? c =>
    match value? with
    | some value => if c.isDigit then some (value * 10 + (c.toNat - '0'.toNat)) else none
    | none => none) (some 0)

/-- The marker's number, if it is written in ASCII digits and fits in 32 bits. -/
def index? (m : Marker) : Option Nat :=
  (decimal? m.digits).filter (· < UInt32.size)

theorem text_ne_nil (m : Marker) : m.text ≠ [] := by
  unfold text
  split <;> simp

private theorem exists_takeWhile_append {c : Char} {s : List Char} (h : c ∈ s) :
    ∃ rest, s = s.takeWhile (· != c) ++ c :: rest := by
  induction s with
  | nil => simp at h
  | cons d s ih =>
    by_cases hd : d = c
    · exact ⟨s, by simp [hd]⟩
    · obtain ⟨rest, hr⟩ := ih (by simpa [Ne.symm hd] using h)
      have hne : (d != c) = true := by simpa using hd
      refine ⟨rest, ?_⟩
      simp only [List.takeWhile_cons, hne, if_true, List.cons_append]
      rw [← hr]

private theorem leadingDigits_append_afterDigits (s : List Char) :
    leadingDigits s ++ afterDigits s = s :=
  List.takeWhile_append_dropWhile

/-- A text goes on behind the marker it starts with. -/
theorem exists_append_of_leading? {s : List Char} {m : Marker} (h : leading? s = some m) :
    ∃ rest, s = m.text ++ rest := by
  unfold leading? at h
  split at h
  · rename_i rest
    split at h
    · rename_i body hbody
      split at h
      · rename_i hc
        obtain ⟨after, ha⟩ := exists_takeWhile_append hc.2
        cases h
        refine ⟨after, ?_⟩
        have hd := leadingDigits_append_afterDigits rest
        rw [hbody] at hd
        simp only [text, List.cons_append, List.append_assoc, List.nil_append]
        rw [← ha, hd]
      · cases h
    · cases h
  · rename_i rest _
    split at h
    · cases h
      exact ⟨afterDigits rest, by simp [text, leadingDigits_append_afterDigits]⟩
    · cases h
  · cases h

end Marker

/-- What cutting yields: a single character or a marker. -/
inductive Chunk where
  | char (c : Char)
  | marker (m : Marker)
  deriving DecidableEq, Repr

namespace Chunk

/-- The chunk's own text. -/
def text : Chunk → List Char
  | char c => [c]
  | marker m => m.text

/-- Whether the chunk is a marker. -/
def isMarker : Chunk → Bool
  | char _ => false
  | marker _ => true

end Chunk

/-- Cuts a text of which the first `inside` characters belong to a marker already found. -/
def cutFrom : (inside : Nat) → List Char → List Chunk
  | _, [] => []
  | inside + 1, _ :: rest => cutFrom inside rest
  | 0, c :: rest =>
    match Marker.leading? (c :: rest) with
    | some m => .marker m :: cutFrom (m.text.length - 1) rest
    | none => .char c :: cutFrom 0 rest

/-- The characters and markers of a text, from left to right. -/
def cut (s : List Char) : List Chunk :=
  cutFrom 0 s

theorem text_cutFrom (inside : Nat) (s : List Char) :
    (cutFrom inside s).flatMap Chunk.text = s.drop inside := by
  fun_induction cutFrom inside s with
  | case1 => simp
  | case2 inside c rest ih => simpa using ih
  | case3 c rest m hm ih =>
    obtain ⟨after, ha⟩ := Marker.exists_append_of_leading? hm
    rw [List.flatMap_cons, ih]
    match ht : m.text, Marker.text_ne_nil m with
    | d :: t, _ =>
      rw [ht] at ha
      cases ha
      simp [Chunk.text, ht]
  | case4 c rest hm ih => simpa [Chunk.text] using ih

/-- Cutting loses nothing. -/
theorem text_cut (s : List Char) : (cut s).flatMap Chunk.text = s :=
  text_cutFrom 0 s

end ScriptAssist.Snippet
