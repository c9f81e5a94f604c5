/-!
# Sets of characters

A property of characters that a standard fixes by table is kept as a list of closed ranges of
code points.
-/

namespace ScriptAssist

/-- A set of characters, as closed ranges of code points. -/
structure CharSet where
  ranges : List (Nat × Nat)
  deriving Repr

namespace CharSet

/-- Whether some range holds the character's code point. -/
def contains (set : CharSet) (c : Char) : Bool :=
  set.ranges.any fun range => range.1 ≤ c.toNat && c.toNat ≤ range.2

theorem contains_iff {set : CharSet} {c : Char} :
    set.contains c = true ↔ ∃ range ∈ set.ranges, range.1 ≤ c.toNat ∧ c.toNat ≤ range.2 := by
  simp [contains]

end CharSet

end ScriptAssist
