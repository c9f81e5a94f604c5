/-!
# UTF-8

Bytes are read as text only if they are well-formed UTF-8. When they are not, the fault names
the first place that no well-formed text can contain: where the faulty sequence starts, and how
many of its bytes could still begin a character, or that the bytes end inside a character.
-/

namespace ScriptAssist.Utf8

/-- Where bytes stop being UTF-8. -/
structure Fault where
  /-- Index of the first byte of the faulty sequence. -/
  start : Nat
  /-- Length of the faulty sequence; none when the bytes end inside a character. -/
  length? : Option Nat
  deriving DecidableEq, Repr

/-- The fault in words. -/
def Fault.message : Fault → String
  | ⟨start, some length⟩ => s!"invalid utf-8 sequence of {length} bytes from index {start}"
  | ⟨start, none⟩ => s!"incomplete utf-8 byte sequence from index {start}"

/-- Any byte but the first of a character. -/
def tail : Nat × Nat := (0x80, 0xBF)

/-- The ranges of the bytes that must follow a first byte; none where no character begins. The
narrower ranges shut out long forms, surrogates and code points past the last. -/
def following (first : Nat) : Option (List (Nat × Nat)) :=
  if first < 0x80 then some []
  else if first < 0xC2 then none
  else if first < 0xE0 then some [tail]
  else if first = 0xE0 then some [(0xA0, 0xBF), tail]
  else if first = 0xED then some [(0x80, 0x9F), tail]
  else if first < 0xF0 then some [tail, tail]
  else if first = 0xF0 then some [(0x90, 0xBF), tail, tail]
  else if first < 0xF4 then some [tail, tail, tail]
  else if first = 0xF4 then some [(0x80, 0x8F), tail, tail]
  else none

/-- The first fault in bytes of which the character at `start` has `seen` bytes behind and the
ranges `owed` before it. -/
def faultFrom : (start seen : Nat) → (owed : List (Nat × Nat)) → List UInt8 → Option Fault
  | _, _, [], [] => none
  | start, _, _ :: _, [] => some ⟨start, none⟩
  | start, _, [], byte :: rest =>
    match following byte.toNat with
    | none => some ⟨start, some 1⟩
    | some [] => faultFrom (start + 1) 0 [] rest
    | some owed => faultFrom start 1 owed rest
  | start, seen, range :: owed, byte :: rest =>
    if range.1 ≤ byte.toNat ∧ byte.toNat ≤ range.2 then
      if owed.isEmpty then faultFrom (start + seen + 1) 0 [] rest
      else faultFrom start (seen + 1) owed rest
    else some ⟨start, some seen⟩

/-- The first fault in bytes, if they are not UTF-8. -/
def fault? (bytes : List UInt8) : Option Fault :=
  faultFrom 0 0 [] bytes

/-- The bytes of a text. -/
def encode (s : String) : List UInt8 :=
  s.toUTF8.data.toList

/-- The text that bytes spell, or their first fault. -/
def decode (bytes : List UInt8) : Except Fault String :=
  match String.fromUTF8? ⟨bytes.toArray⟩ with
  | some s => .ok s
  | none => .error ((fault? bytes).getD ⟨0, none⟩)

/-- The bytes of a text spell that text. -/
theorem decode_encode (s : String) : decode (encode s) = .ok s := by
  have h : String.fromUTF8? s.toByteArray = some s := by
    simp [String.fromUTF8?, String.fromUTF8, s.isValidUTF8]
  simp [decode, encode, h]

theorem encode_append (s t : String) : encode (s ++ t) = encode s ++ encode t := by
  simp [encode]

end ScriptAssist.Utf8
