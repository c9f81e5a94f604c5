import ScriptAssist.Snippet.Template

/-!
# Reading snippets

How an editor reads a snippet. A backslash makes a dollar sign, a closing brace or a backslash
behind it an ordinary character. A dollar sign that is not made ordinary opens a slot if digits
follow, or digits, a colon and a default in braces. All else is literal text, and the number 0
stands for the final cursor. `readFrom` reads a text into pieces; it knows nothing of how templates
are written or shown.
-/

namespace ScriptAssist.Snippet

/-- The characters that a backslash in front makes ordinary. -/
def escapable : List Char :=
  ['$', '}', '\\']

/-- The slot of a number. -/
def slotOf (digits default : List Char) : Piece :=
  let number := Nat.ofDigitChars 10 digits 0
  if number = 0 then .finalCursor else .placeholder number (String.ofList default)

/-- Reads a default up to the first closing brace that is not ordinary, and gives what follows
behind the brace. -/
def readDefault? : List Char → Option (List Char × List Char)
  | [] => none
  | '\\' :: c :: rest =>
    if c ∈ escapable then (readDefault? rest).map fun (default, after) => (c :: default, after)
    else (readDefault? (c :: rest)).map fun (default, after) => ('\\' :: default, after)
  | c :: rest =>
    if c = '}' then some ([], rest)
    else (readDefault? rest).map fun (default, after) => (c :: default, after)

/-- Reads the slot that a text starts with, and gives what follows. The digits are as many ASCII
digits as stand behind one another. -/
def readSlot? : List Char → Option (Piece × List Char)
  | '$' :: '{' :: rest =>
    match rest.dropWhile Char.isDigit with
    | ':' :: body =>
      if rest.takeWhile Char.isDigit = [] then none
      else (readDefault? body).map fun (default, after) =>
        (slotOf (rest.takeWhile Char.isDigit) default, after)
    | _ => none
  | '$' :: rest =>
    if rest.takeWhile Char.isDigit = [] then none
    else some (slotOf (rest.takeWhile Char.isDigit) [], rest.dropWhile Char.isDigit)
  | _ => none

theorem length_lt_of_readDefault? {s default after : List Char}
    (h : readDefault? s = some (default, after)) : after.length < s.length := by
  fun_induction readDefault? s generalizing default after with
  | case1 => cases h
  | case2 c rest _ ih =>
    obtain ⟨⟨default', after'⟩, hrest, heq⟩ := Option.map_eq_some_iff.1 h
    cases heq
    have := ih hrest
    simp only [List.length_cons]
    omega
  | case3 c rest _ ih =>
    obtain ⟨⟨default', after'⟩, hrest, heq⟩ := Option.map_eq_some_iff.1 h
    cases heq
    exact Nat.lt_succ_of_lt (ih hrest)
  | case4 rest =>
    cases h
    exact Nat.lt_succ_self _
  | case5 c rest _ _ ih =>
    obtain ⟨⟨default', after'⟩, hrest, heq⟩ := Option.map_eq_some_iff.1 h
    cases heq
    exact Nat.lt_succ_of_lt (ih hrest)

/-- A slot takes a character at least. -/
theorem length_lt_of_readSlot? {s after : List Char} {p : Piece}
    (h : readSlot? s = some (p, after)) : after.length < s.length := by
  unfold readSlot? at h
  split at h
  · next rest =>
    have hdrop := (List.dropWhile_suffix (l := rest) Char.isDigit).length_le
    split at h
    · next body hbody =>
      split at h
      · cases h
      · obtain ⟨⟨default, after'⟩, hdefault, heq⟩ := Option.map_eq_some_iff.1 h
        cases heq
        have hbrace := length_lt_of_readDefault? hdefault
        rw [hbody, List.length_cons] at hdrop
        simp only [List.length_cons]
        omega
    · cases h
  · next rest _ =>
    split at h
    · cases h
    · cases h
      have hdrop := (List.dropWhile_suffix (l := rest) Char.isDigit).length_le
      simp only [List.length_cons]
      omega
  · cases h

/-- Reads a text behind literal characters that belong together, given last character first. -/
def readFrom (pending : List Char) : List Char → List Piece
  | [] => literal pending
  | '\\' :: c :: rest =>
    if c ∈ escapable then readFrom (c :: pending) rest else readFrom ('\\' :: pending) (c :: rest)
  | c :: rest =>
    match _h : readSlot? (c :: rest) with
    | some (slot, after) => literal pending ++ slot :: readFrom [] after
    | none => readFrom (c :: pending) rest
termination_by s => s.length
decreasing_by
  · simp only [List.length_cons]
    omega
  · simp only [List.length_cons]
    omega
  · exact length_lt_of_readSlot? ‹_›
  · simp only [List.length_cons]
    omega

/-- Reads a snippet. -/
def Template.read (snippet : String) : Template :=
  ⟨readFrom [] snippet.toList⟩

end ScriptAssist.Snippet
