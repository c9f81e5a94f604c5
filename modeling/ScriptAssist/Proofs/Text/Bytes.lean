import ScriptAssist.Text.Utf8

/-!
# Bytes of texts

`Utf8.encode` and `Utf8.decode` are inverse to each other: bytes are read as a text exactly if
they are the bytes of that text. The byte ten stands for the line feed and is part of no other
character, so a line of bytes is a line of the text.
-/

namespace ScriptAssist.Utf8

theorem encode_ofList (s : List Char) :
    encode (String.ofList s) = s.flatMap String.utf8EncodeChar := by
  simp [encode, List.utf8Encode]

theorem length_encode (s : String) : (encode s).length = s.utf8ByteSize := rfl

/-- Bytes are read as a text exactly if they are its bytes. -/
theorem decode_eq_ok_iff {bytes : List UInt8} {s : String} :
    decode bytes = .ok s ↔ bytes = encode s := by
  constructor
  · intro h
    unfold decode String.fromUTF8? at h
    split at h
    · next t ht =>
      split at ht
      · cases ht
        cases h
        simp [encode, String.fromUTF8]
      · cases ht
    · cases h
  · rintro rfl
    exact decode_encode s

/-! ## The line feed -/

private theorem feed_ne_ofNat {n : Nat} (hlow : 0x80 ≤ n) (hn : n < 256) :
    (10 : UInt8) ≠ UInt8.ofNat n := by
  intro h
  have hten : 10 = n := by
    simpa [← UInt8.toNat_inj, Nat.mod_eq_of_lt hn] using h
  omega

/-- Every byte of a character outside ASCII is at least `0x80`, so none of them is a line feed. -/
theorem feed_mem_encodeChar_iff {c : Char} :
    (10 : UInt8) ∈ String.utf8EncodeChar c ↔ c = '\n' := by
  constructor
  · intro h
    by_cases hascii : c.val.toNat ≤ 0x7f
    · rw [String.utf8EncodeChar, if_pos hascii, List.mem_singleton, ← UInt8.toNat_inj,
        UInt8.toNat_ofNat', Nat.mod_eq_of_lt (by omega)] at h
      exact Char.ext (UInt32.toNat_inj.1 h.symm)
    · exfalso
      -- Two, three or four bytes, each of them a marker with some bits of the character.
      simp only [String.utf8EncodeChar, hascii, if_false] at h
      split at h
      · simp (disch := omega) only [List.mem_cons, List.not_mem_nil, feed_ne_ofNat, or_false] at h
      · split at h <;>
          simp (disch := omega) only [List.mem_cons, List.not_mem_nil, feed_ne_ofNat, or_false]
            at h
  · rintro rfl
    decide

theorem feed_mem_encode_iff {s : List Char} :
    (10 : UInt8) ∈ encode (String.ofList s) ↔ '\n' ∈ s := by
  rw [encode_ofList, List.mem_flatMap]
  constructor
  · rintro ⟨c, hc, hfeed⟩
    exact feed_mem_encodeChar_iff.1 hfeed ▸ hc
  · intro h
    exact ⟨'\n', h, feed_mem_encodeChar_iff.2 rfl⟩

end ScriptAssist.Utf8
