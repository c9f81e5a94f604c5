import ScriptAssist.Text.Word64

/-!
# Decimal numbers

What `Word64.ofText` reads: the texts that spell a number below 2^64, and of those the number that
they spell (`ofText_eq_ok_iff`). Leading zeros do not count. The digits that a number is printed
with spell that number (`spells_toDigits`).
-/

namespace ScriptAssist.Word64

/-- The text spells the number: decimal digits, at least one, and perhaps a plus sign before
them. -/
inductive Spells : List Char → Nat → Prop
  | digits {s : List Char} (hne : s ≠ []) (hdigits : ∀ c ∈ s, c.isDigit = true) :
      Spells s (Nat.ofDigitChars 10 s 0)
  | signed {s : List Char} (hne : s ≠ []) (hdigits : ∀ c ∈ s, c.isDigit = true) :
      Spells ('+' :: s) (Nat.ofDigitChars 10 s 0)

/-- A text spells one number at most. -/
theorem Spells.unique {s : List Char} {m n : Nat} (hm : Spells s m) (hn : Spells s n) : m = n := by
  have hplus : '+'.isDigit ≠ true := by decide
  cases hm with
  | digits hne hdigits =>
    cases hn with
    | digits => rfl
    | signed => exact absurd (hdigits '+' (by simp)) hplus
  | signed hne hdigits =>
    cases hn with
    | digits _ hall => exact absurd (hall '+' (by simp)) hplus
    | signed => rfl

theorem le_ofDigitChars (s : List Char) (value : Nat) : value ≤ Nat.ofDigitChars 10 s value := by
  rw [Nat.ofDigitChars_eq_ofDigitChars_zero]
  have hpow : 0 < 10 ^ s.length := Nat.pow_pos (by decide)
  have hmul : value ≤ 10 ^ s.length * value := Nat.le_mul_of_pos_left value hpow
  omega

/-- Digits are read as the number that they spell. The bound is checked after each digit, but the
value only grows, so it is enough that the number itself is below it. -/
theorem ofDigits_eq_ok_iff {value : Nat} {s : List Char} {n : Nat} (hvalue : value < UInt64.size) :
    ofDigits value s = .ok n ↔
      (∀ c ∈ s, c.isDigit = true) ∧ n = Nat.ofDigitChars 10 s value ∧ n < UInt64.size := by
  induction s generalizing value with
  | nil =>
    simp only [ofDigits, Except.ok.injEq, List.not_mem_nil, false_implies, implies_true, true_and,
      Nat.ofDigitChars_nil]
    constructor
    · rintro rfl
      exact ⟨rfl, hvalue⟩
    · exact fun h => h.1.symm
  | cons c rest ih =>
    have hnext : Nat.ofDigitChars 10 (c :: rest) value =
        Nat.ofDigitChars 10 rest (value * 10 + (c.toNat - '0'.toNat)) := by
      rw [Nat.ofDigitChars_cons, Nat.mul_comm]
    simp only [ofDigits]
    by_cases hc : c.isDigit = true
    · have hgrow := le_ofDigitChars rest (value * 10 + (c.toNat - '0'.toNat))
      -- Once the value is too large it stays so, and then no number is read on either side.
      by_cases hlarge : UInt64.size ≤ value * 10 + (c.toNat - '0'.toNat)
      · simp only [hc, Bool.not_true, Bool.false_eq_true, if_false, hlarge, if_true, reduceCtorEq,
          false_iff]
        rintro ⟨-, hn, hlt⟩
        omega
      · simp only [hc, Bool.not_true, Bool.false_eq_true, if_false, hlarge]
        rw [ih (by omega), hnext, List.forall_mem_cons]
        simp [hc]
    · simp [hc]

/-- A number is read exactly from the texts that spell it. -/
theorem ofText_eq_ok_iff {s : List Char} {n : Nat} :
    ofText s = .ok n ↔ Spells s n ∧ n < UInt64.size := by
  have hzero : 0 < UInt64.size := by decide
  constructor
  · intro h
    unfold ofText at h
    split at h
    · cases h
    · cases h
    · next c rest hplus =>
      obtain ⟨hdigits, rfl, hlt⟩ := (ofDigits_eq_ok_iff hzero).1 h
      refine ⟨?_, hlt⟩
      by_cases hc : c = '+'
      · subst hc
        simp only [if_true] at hdigits ⊢
        refine .signed ?_ hdigits
        rintro rfl
        exact hplus rfl rfl
      · simp only [hc, if_false] at hdigits ⊢
        exact .digits (by simp) hdigits
  · rintro ⟨hspells, hlt⟩
    cases hspells with
    | digits hne hdigits =>
      obtain ⟨c, rest, rfl⟩ := List.exists_cons_of_ne_nil hne
      have hc : c ≠ '+' := by
        rintro rfl
        exact absurd (hdigits '+' (by simp)) (by decide)
      rw [ofText]
      · rw [if_neg hc]
        exact (ofDigits_eq_ok_iff hzero).2 ⟨hdigits, rfl, hlt⟩
      · exact fun h _ => hc h
    | @signed rest hne hdigits =>
      rw [ofText]
      · rw [if_pos rfl]
        exact (ofDigits_eq_ok_iff hzero).2 ⟨hdigits, rfl, hlt⟩
      · exact fun _ h => hne h

/-- The digits of a number spell it. -/
theorem spells_toDigits (n : Nat) : Spells (Nat.toDigits 10 n) n := by
  have h : Spells (Nat.toDigits 10 n) (Nat.ofDigitChars 10 (Nat.toDigits 10 n) 0) :=
    .digits Nat.toDigits_ne_nil fun _ hc =>
      Nat.isDigit_of_mem_toDigits (by decide) (by decide) hc
  rwa [Nat.ofDigitChars_ten_toDigits] at h

end ScriptAssist.Word64
