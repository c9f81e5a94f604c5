import ScriptAssist.Text.CharSet

/-!
# Blanks

The characters with the Unicode property `White_Space`, and trimming by them. Texts are lists of
characters here, so that trimming is `dropWhile` from either end.
-/

namespace ScriptAssist.Text

/-- The property `White_Space`: 25 characters, none of them outside the basic plane. -/
def blanks : CharSet where
  ranges := [(0x9, 0xD), (0x20, 0x20), (0x85, 0x85), (0xA0, 0xA0), (0x1680, 0x1680),
    (0x2000, 0x200A), (0x2028, 0x2029), (0x202F, 0x202F), (0x205F, 0x205F), (0x3000, 0x3000)]

/-- Whether a character is white space. -/
def isBlank (c : Char) : Bool :=
  blanks.contains c

/-- The text without its leading blanks. -/
def trimStart (s : List Char) : List Char :=
  s.dropWhile isBlank

/-- The text without its trailing blanks. -/
def trimEnd (s : List Char) : List Char :=
  (s.reverse.dropWhile isBlank).reverse

/-- The text without the blanks at both ends. -/
def trim (s : List Char) : List Char :=
  trimEnd (trimStart s)

@[simp] theorem trimEnd_nil : trimEnd [] = [] := rfl

/-- Nothing but blanks is cut off the front. -/
theorem exists_append_trimStart (s : List Char) :
    ∃ cut, s = cut ++ trimStart s ∧ ∀ c ∈ cut, isBlank c = true := by
  refine ⟨s.takeWhile isBlank, (List.takeWhile_append_dropWhile).symm, fun c hc => ?_⟩
  exact List.all_eq_true.1 List.all_takeWhile c hc

end ScriptAssist.Text
