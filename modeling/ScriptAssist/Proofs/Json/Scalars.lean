import ScriptAssist.Json.Printer
import ScriptAssist.Json.ValueReader
import ScriptAssist.Proofs.Text.Decimal

/-!
# Printed texts and numbers

What is printed for a text or for a whole number is read back as that text or number, whatever
follows it in the document (`readText_textBody`, `readNumber_toDigits`). A text is taken character
by character: what is printed for one is either the character itself or an escape that resolves to
it (`escapeChar_cases`).
-/

namespace ScriptAssist.Json

/-- What may stand behind a value: nothing, or what marks the end of an item or a member. -/
inductive Follows : List Char → Prop
  | nothing : Follows []
  | comma (rest : List Char) : Follows (',' :: rest)
  | bracket (rest : List Char) : Follows (']' :: rest)
  | brace (rest : List Char) : Follows ('}' :: rest)

/-! ## Texts -/

/-- What is printed for a text, behind its opening quote. -/
def textBody (s : String) : List Char :=
  s.toList.flatMap escapeChar ++ ['"']

theorem toList_renderText (s : String) : (renderText s).toList = '"' :: textBody s := by
  rw [renderText, String.toList_ofList, textBody]
  rfl

/-- A control character is escaped with its code. -/
theorem escapeAt_controlHex {c : Char} (hc : c.toNat < 0x20) (rest : List Char) (index : Nat) :
    escapeAt ('u' :: '0' :: '0' :: controlHex c ++ rest) index = .ok (c, 5) := by
  have hhigh : ∀ n < 32, hexValue? (n / 16).digitChar = some (n / 16) := by decide
  have hlow : ∀ n < 32, hexValue? (n % 16).digitChar = some (n % 16) := by decide
  have hquad : hexQuad ('0' :: '0' :: controlHex c ++ rest) (index + 1) = .ok c.toNat := by
    have hzero : hexValue? '0' = some 0 := rfl
    have hvalue : ((0 * 16 + 0) * 16 + c.toNat / 16) * 16 + c.toNat % 16 = c.toNat := by omega
    simp only [controlHex, List.cons_append, List.nil_append, hexQuad, hzero, hhigh _ hc,
      hlow _ hc, hvalue]
  have hhi : isHighSurrogate c.toNat = false := by
    simp only [isHighSurrogate, Bool.and_eq_false_iff, decide_eq_false_iff_not]
    omega
  have hlo : isLowSurrogate c.toNat = false := by
    simp only [isLowSurrogate, Bool.and_eq_false_iff, decide_eq_false_iff_not]
    omega
  have hescape : unicodeEscape ('0' :: '0' :: controlHex c ++ rest) (index + 1) = .ok (c, 4) := by
    rw [unicodeEscape, hquad]
    simp only [bind, Except.bind, hhi, hlo, Bool.false_eq_true, if_false, Char.ofNat_toNat]
    rfl
  show (unicodeEscape ('0' :: '0' :: controlHex c ++ rest) (index + 1)).map _ = _
  rw [hescape]
  rfl

/-- A character is printed as itself, or as an escape for it. -/
theorem escapeChar_cases (c : Char) :
    (∃ letters, escapeChar c = '\\' :: letters ∧
      ∀ rest index, escapeAt (letters ++ rest) index = .ok (c, letters.length)) ∨
    (escapeChar c = [c] ∧ c ≠ '"' ∧ c ≠ '\\' ∧ 0x20 ≤ c.toNat) := by
  unfold escapeChar
  split
  · next h => exact .inl ⟨['"'], rfl, fun _ _ => by subst h; rfl⟩
  split
  · next h => exact .inl ⟨['\\'], rfl, fun _ _ => by subst h; rfl⟩
  split
  · next h => exact .inl ⟨['b'], rfl, fun _ _ => by subst h; rfl⟩
  split
  · next h => exact .inl ⟨['t'], rfl, fun _ _ => by subst h; rfl⟩
  split
  · next h => exact .inl ⟨['n'], rfl, fun _ _ => by subst h; rfl⟩
  split
  · next h => exact .inl ⟨['f'], rfl, fun _ _ => by subst h; rfl⟩
  split
  · next h => exact .inl ⟨['r'], rfl, fun _ _ => by subst h; rfl⟩
  split
  · next h => exact .inl ⟨'u' :: '0' :: '0' :: controlHex c, rfl, escapeAt_controlHex h⟩
  · next hquote hslash _ _ _ _ _ hcontrol => exact .inr ⟨rfl, hquote, hslash, by omega⟩

/-- The letters of an escape are passed over once it is resolved. -/
theorem readTextFrom_inside (letters read rest : List Char) (index : Nat) :
    ∃ index', readTextFrom read letters.length index (letters ++ rest) =
      readTextFrom read 0 index' rest := by
  induction letters generalizing index with
  | nil => exact ⟨index, rfl⟩
  | cons c letters ih => exact ih _

theorem readTextFrom_escapeChar (c : Char) (read rest : List Char) (index : Nat) :
    ∃ index', readTextFrom read 0 index (escapeChar c ++ rest) =
      readTextFrom (c :: read) 0 index' rest := by
  rcases escapeChar_cases c with ⟨letters, hprinted, hescape⟩ | ⟨hprinted, hquote, hslash, hcontrol⟩
  · obtain ⟨index', h⟩ := readTextFrom_inside letters (c :: read) rest (index + 1)
    refine ⟨index', ?_⟩
    rw [hprinted, List.cons_append, readTextFrom, if_neg (by decide), if_pos rfl, hescape]
    exact h
  · refine ⟨index + c.utf8Size, ?_⟩
    rw [hprinted, List.cons_append, List.nil_append, readTextFrom, if_neg hquote, if_neg hslash,
      if_neg (by omega)]

theorem readTextFrom_escaped (s read rest : List Char) (index : Nat) :
    ∃ index', readTextFrom read 0 index (s.flatMap escapeChar ++ '"' :: rest) =
      .ok (String.ofList (read.reverse ++ s), ⟨rest, index'⟩) := by
  induction s generalizing read index with
  | nil => exact ⟨index + 1, by rw [List.append_nil]; rfl⟩
  | cons c s ih =>
    obtain ⟨next, hnext⟩ :=
      readTextFrom_escapeChar c read (s.flatMap escapeChar ++ '"' :: rest) index
    obtain ⟨index', h⟩ := ih (c :: read) next
    refine ⟨index', ?_⟩
    rw [List.flatMap_cons, List.append_assoc, hnext, h, List.reverse_cons, List.append_assoc]
    rfl

/-- A printed text is read back. -/
theorem readText_textBody (s : String) (rest : List Char) (index : Nat) :
    ∃ index', readText ⟨textBody s ++ rest, index⟩ = .ok (s, ⟨rest, index'⟩) := by
  obtain ⟨index', h⟩ := readTextFrom_escaped s.toList [] rest index
  refine ⟨index', ?_⟩
  rw [readText, textBody, List.append_assoc]
  exact h.trans (by rw [List.reverse_nil, List.nil_append, String.ofList_toList])

/-! ## Numbers -/

/-- Digits are gathered up to the end of a number, as long as the number is below the bound. -/
theorem gather_digits {bound : Nat} {s : List Char} (hs : ∀ c ∈ s, c.isDigit = true)
    {value : Nat} (hbound : Nat.ofDigitChars 10 s value < bound) {rest : List Char}
    (hrest : Follows rest) (taken : Nat) :
    gather bound value taken (s ++ rest) =
      (Nat.ofDigitChars 10 s value, taken + s.length, rest) := by
  induction s generalizing value taken with
  | nil => cases hrest <;> simp [gather]
  | cons c s ih =>
    have hvalue : Nat.ofDigitChars 10 (c :: s) value =
        Nat.ofDigitChars 10 s (value * 10 + digitValue c) := by
      rw [Nat.ofDigitChars_cons, Nat.mul_comm]
      rfl
    rw [hvalue] at hbound ⊢
    -- The value only grows, so a bound on the whole number bounds it at every digit.
    have hgrow := Word64.le_ofDigitChars s (value * 10 + digitValue c)
    have hc : c.isDigit = true ∧ value * 10 + digitValue c < bound := ⟨hs c (by simp), by omega⟩
    rw [List.cons_append, gather, if_pos hc, ih (fun d hd => hs d (by simp [hd])) hbound,
      List.length_cons]
    congr 2
    omega

/-- No number but zero is printed with a zero in front. -/
theorem head?_toDigits_ne {n : Nat} (hn : 0 < n) : (Nat.toDigits 10 n).head? ≠ some '0' := by
  induction n using Nat.strongRecOn with
  | ind n ih =>
    by_cases hlt : n < 10
    · rw [Nat.toDigits_of_lt_base hlt]
      have hdigit : ∀ n < 10, 0 < n → [n.digitChar].head? ≠ some '0' := by decide
      exact hdigit n hlt hn
    · have hfront := ih (n / 10) (by omega) (by omega)
      obtain ⟨c, s, hs⟩ := List.exists_cons_of_ne_nil (Nat.toDigits_ne_nil (b := 10) (n := n / 10))
      rw [Nat.toDigits_of_base_le (by decide) (by omega), hs]
      rwa [hs] at hfront

/-- Behind a number nothing more of it is found. -/
theorem Follows.cursor {rest : List Char} (h : Follows rest) (index : Nat) :
    (Cursor.mk rest index).atDigit = false ∧ (Cursor.mk rest index).skipDigits = ⟨rest, index⟩ ∧
      (Cursor.mk rest index).atChar '.' = false ∧ (Cursor.mk rest index).atChar 'e' = false ∧
      (Cursor.mk rest index).atChar 'E' = false := by
  cases h <;> exact ⟨rfl, rfl, rfl, rfl, rfl⟩

/-- The digits of a number are read back. -/
theorem readNumber_toDigits (negative : Bool) {n : Nat} (hn : n < UInt64.size) {rest : List Char}
    (hrest : Follows rest) (index : Nat) :
    ∃ index', readNumber negative ⟨Nat.toDigits 10 n ++ rest, index⟩ =
      .ok (wholeNumber negative n, ⟨rest, index'⟩) := by
  have hdigits : ∀ c ∈ Nat.toDigits 10 n, c.isDigit = true :=
    fun _ hc => Nat.isDigit_of_mem_toDigits (by decide) (by decide) hc
  have hvalue : Nat.ofDigitChars 10 (Nat.toDigits 10 n) 0 = n := Nat.ofDigitChars_ten_toDigits
  have hgather := gather_digits hdigits (hvalue.symm ▸ hn) hrest 0
  obtain ⟨c, s, hs⟩ := List.exists_cons_of_ne_nil (Nat.toDigits_ne_nil (b := 10) (n := n))
  have hzero : ¬ (c = '0' ∧ (Cursor.mk (c :: (s ++ rest)) index).next.atDigit = true) := by
    rintro ⟨rfl, hnext⟩
    -- A zero stands in front of zero only, and behind that there is no digit.
    have hn0 : n = 0 := Nat.eq_zero_of_not_pos fun hpos =>
      head?_toDigits_ne hpos (by rw [hs]; rfl)
    obtain rfl : s = [] := by
      rw [hn0, Nat.toDigits_zero] at hs
      exact (List.cons.inj hs).2.symm
    have hno : (Cursor.mk ('0' :: ([] ++ rest)) index).next.atDigit = false :=
      (hrest.cursor (index + '0'.utf8Size)).1
    rw [hno] at hnext
    cases hnext
  rw [hvalue, hs, List.cons_append] at hgather
  obtain ⟨hdigit, hskip, hpoint, he, hE⟩ := hrest.cursor (index + (0 + (c :: s).length))
  refine ⟨index + (0 + (c :: s).length), ?_⟩
  have hc : c.isDigit = true := hdigits c (by rw [hs]; simp)
  rw [hs, List.cons_append, readNumber]
  simp only [hc, Bool.not_true, Bool.false_eq_true, if_false, if_neg hzero, maxSignificand, hgather,
    hdigit, hskip, hpoint, he, hE, Bool.or_false]

end ScriptAssist.Json
