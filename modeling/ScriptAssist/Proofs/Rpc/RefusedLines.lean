import Mathlib.Data.List.DropRight
import ScriptAssist.Proofs.Rpc.Layout

/-!
# Refused header lines

A line is refused if it is a length header whose value spells no number, or a number that is too
large. The reading that meets it ends with that line: what is left is the rest of the block, the
blank line included (`readMessage_refused`). Only a block without a length header is refused as a
whole (`readMessage_noLength`).
-/

namespace ScriptAssist.Rpc

open Text

/-! ## The specification -/

/-- A line is refused for a fault: it is a length header, and its value spells no number of 64 bits,
or one that is too large. -/
inductive Refused (line : List Char) : HeaderFault → Prop
  | badLength {value : List Char} {why : Word64.Fault} (hline : LengthHeader line value)
      (hvalue : Word64.ofText (trim value) = .error why) : Refused line (.badLength why)
  | tooLong {value : List Char} {n : Nat} (hline : LengthHeader line value)
      (hvalue : Word64.ofText (trim value) = .ok n) (hlong : Frame.maxLength < n) :
      Refused line (.tooLong n)

/-- Header lines that are not blank, and the blank line that ends them. -/
structure HeaderBlock where
  lines : List (List Char)
  closing : List Char
  lines_ne_nil : lines ≠ []
  no_feed : ∀ line ∈ lines, '\n' ∉ line
  not_blank : ∀ line ∈ lines, ¬ AllBlank line
  closing_blank : IsBlankLine closing

namespace HeaderBlock

/-- The bytes of the block. -/
def bytes (b : HeaderBlock) : List UInt8 :=
  b.lines.flatMap lineBytes ++ lineBytes b.closing

/-- A block with bytes behind it is refused for a fault, and some bytes are left: all that is behind
the first line that is refused, or what is behind the block if none of its lines is a length
header. -/
inductive Rejected (b : HeaderBlock) (rest : List UInt8) : HeaderFault → List UInt8 → Prop
  | line {before after : List (List Char)} {line : List Char} {fault : HeaderFault}
      (hlines : b.lines = before ++ line :: after)
      (hbefore : ∀ other ∈ before, ∀ fault, ¬ Refused other fault) (hline : Refused line fault) :
      Rejected b rest fault (after.flatMap lineBytes ++ (lineBytes b.closing ++ rest))
  | whole (hother : ∀ line ∈ b.lines, ∀ value, ¬ LengthHeader line value) :
      Rejected b rest .noLength rest

end HeaderBlock

/-- Why a line is refused, if it is. -/
def refusal? (line : List Char) : Option HeaderFault :=
  match Block.lengthOf (trim line) with
  | .error fault => some fault
  | .ok _ => none

/-- The lines behind the last one that is refused. -/
def remainder (lines : List (List Char)) : List (List Char) :=
  lines.rtakeWhile fun line => (refusal? line).isNone

theorem Refused.exists_value {line : List Char} {fault : HeaderFault} (h : Refused line fault) :
    ∃ value, LengthHeader line value := by
  cases h with
  | badLength hline => exact ⟨_, hline⟩
  | tooLong hline => exact ⟨_, hline⟩

/-- A length header is refused for what its one value spells. -/
theorem refused_iff_of_lengthHeader {line value : List Char} (h : LengthHeader line value)
    {fault : HeaderFault} :
    Refused line fault ↔
      (∃ why, Word64.ofText (trim value) = .error why ∧ fault = .badLength why) ∨
        ∃ n, Word64.ofText (trim value) = .ok n ∧ Frame.maxLength < n ∧ fault = .tooLong n := by
  constructor
  · intro hrefused
    cases hrefused with
    | badLength hline hvalue =>
      rw [hline.unique h] at hvalue
      exact .inl ⟨_, hvalue, rfl⟩
    | tooLong hline hvalue hlong =>
      rw [hline.unique h] at hvalue
      exact .inr ⟨_, hvalue, hlong, rfl⟩
  · rintro (⟨why, hvalue, rfl⟩ | ⟨n, hvalue, hlong, rfl⟩)
    · exact .badLength h hvalue
    · exact .tooLong h hvalue hlong

theorem refusal?_eq_some_iff {line : List Char} {fault : HeaderFault} :
    refusal? line = some fault ↔ Refused line fault := by
  by_cases hline : ∃ value, LengthHeader line value
  · obtain ⟨value, hvalue⟩ := hline
    rw [refusal?, lengthOf_trim_of_lengthHeader hvalue, refused_iff_of_lengthHeader hvalue]
    cases Word64.ofText (trim value) with
    | error why => simp [eq_comm]
    | ok n =>
      -- A number is refused only past the greatest length that a frame may have.
      by_cases hn : n ≤ Frame.maxLength
      · simp [hn, Nat.not_lt.2 hn]
      · simp [hn, Nat.lt_of_not_le hn, eq_comm]
  · rw [refusal?, lengthOf_trim_of_other (not_exists.1 hline)]
    constructor
    · intro h
      cases h
    · intro h
      exact absurd h.exists_value hline

/-- Every other line is one that a header block may have. -/
theorem isHeader_of_refusal? {line : List Char} (hfeed : '\n' ∉ line) (hblank : ¬ AllBlank line)
    (h : refusal? line = none) : IsHeader line := by
  unfold refusal? at h
  split at h
  · cases h
  · next hlength => exact isHeader_of_lengthOf hfeed hblank _ hlength

/-! ## The lines behind the last one that is refused -/

theorem remainder_concat (lines : List (List Char)) (line : List Char) :
    remainder (lines ++ [line]) =
      if (refusal? line).isNone then remainder lines ++ [line] else [] :=
  List.rtakeWhile_concat _ lines line

/-- None of them is refused. -/
theorem isHeader_of_mem_remainder {lines : List (List Char)} (hfeed : ∀ line ∈ lines, '\n' ∉ line)
    (hblank : ∀ line ∈ lines, ¬ AllBlank line) {line : List Char} (h : line ∈ remainder lines) :
    IsHeader line := by
  have hmem : line ∈ lines := (List.rtakeWhile_suffix _ lines).subset h
  have hnone : (refusal? line).isNone = true :=
    List.mem_rtakeWhile_imp (p := fun line => (refusal? line).isNone) h
  exact isHeader_of_refusal? (hfeed line hmem) (hblank line hmem)
    (Option.isNone_iff_eq_none.1 hnone)

/-! ## Readings -/

/-- A reading ends with the first line that is refused, and leaves all that is behind it. -/
theorem readMessage_refused {before : List (List Char)} {line : List Char} {fault : HeaderFault}
    (hbefore : ∀ other ∈ before, IsHeader other) (hfeed : '\n' ∉ line) (hblank : ¬ AllBlank line)
    (h : Refused line fault) (rest : List UInt8) :
    readMessage (before.flatMap lineBytes ++ (lineBytes line ++ rest)) =
      (.error (.header fault), rest) := by
  have hne : (trim line).isEmpty = false := by
    rw [Bool.eq_false_iff, ne_eq, List.isEmpty_iff, trim_eq_nil_iff]
    exact hblank
  have hlength : Block.lengthOf (trim line) = .error fault := by
    have hrefusal := refusal?_eq_some_iff.2 h
    unfold refusal? at hrefusal
    split at hrefusal
    · next hlength => rw [hlength, Option.some.inj hrefusal]
    · cases hrefusal
  have htext : ∀ block : Block, block.addText (trim line) = .fault (.header fault) := by
    intro block
    simp only [Block.addText, hne, hlength, Bool.false_eq_true, if_false]
  obtain ⟨block, hblock⟩ := readBlock_headers hbefore {} (lineBytes line ++ rest)
  rw [readBlock_line hfeed, htext] at hblock
  exact readMessage_of_header hblock

/-- Lines none of which is refused give a last length, or none of them is a length header. -/
theorem exists_lastLength {lines : List (List Char)} (h : ∀ line ∈ lines, IsHeader line) :
    (∀ line ∈ lines, ∀ value, ¬ LengthHeader line value) ∨ ∃ n, LastLength lines n := by
  induction lines with
  | nil => exact .inl (List.forall_mem_nil _)
  | cons line rest ih =>
    obtain ⟨hline, hrest⟩ := List.forall_mem_cons.1 h
    -- This line counts only if none behind it gives a length.
    rcases ih hrest with hother | ⟨n, hlast⟩
    · by_cases hlength : ∃ value, LengthHeader line value
      · obtain ⟨value, hvalue⟩ := hlength
        obtain ⟨n, -, hgives⟩ := hline.length_given value hvalue
        exact .inr ⟨n, @LastLength.intro [] rest line n hgives hother⟩
      · exact .inl (List.forall_mem_cons.2 ⟨not_exists.1 hlength, hother⟩)
    · obtain @⟨before, after, last, n, hgives, hafter⟩ := hlast
      exact .inr ⟨n, @LastLength.intro (line :: before) after last n hgives hafter⟩

/-- A block without a length header is refused as a whole. -/
theorem readMessage_noLength {lines : List (List Char)} {closing : List Char} (hne : lines ≠ [])
    (h : ∀ line ∈ lines, IsHeader line)
    (hother : ∀ line ∈ lines, ∀ value, ¬ LengthHeader line value) (hclosing : IsBlankLine closing)
    (rest : List UInt8) :
    readMessage (lines.flatMap lineBytes ++ (lineBytes closing ++ rest)) =
      (.error (.header .noLength), rest) := by
  obtain ⟨line, lines, rfl⟩ := List.exists_cons_of_ne_nil hne
  obtain ⟨hline, hlines⟩ := List.forall_mem_cons.1 h
  obtain ⟨hfirst, hothers⟩ := List.forall_mem_cons.1 hother
  refine readMessage_of_header ?_
  rw [List.flatMap_cons, List.append_assoc, readBlock_other hline hfirst,
    readBlock_others hlines hothers, readBlock_line hclosing.no_feed,
    trim_eq_nil_iff.2 hclosing.blank]
  rfl

/-- A block that gives a length has a body behind it. -/
theorem readBlock_of_lastLength {lines : List (List Char)} {closing : List Char} {n : Nat}
    (h : ∀ line ∈ lines, IsHeader line) (hlast : LastLength lines n)
    (hclosing : IsBlankLine closing) (rest : List UInt8) :
    readBlock [] {} (lines.flatMap lineBytes ++ (lineBytes closing ++ rest)) =
      (.ok (some n), rest) := by
  rw [readBlock_lastLength h hlast, readBlock_closing hclosing]

/-- A blank line between two blocks is passed over. -/
theorem readMessage_blankLine {line : List Char} (h : IsBlankLine line) (rest : List UInt8) :
    readMessage (lineBytes line ++ rest) = readMessage rest := by
  have hblock : readBlock [] {} ([line].flatMap lineBytes ++ rest) = readBlock [] {} rest :=
    readBlock_blankLines (List.forall_mem_singleton.2 h) rfl rest
  rw [List.flatMap_singleton] at hblock
  simp only [readMessage, Frame.read, hblock]

/-! ## Blocks that are refused -/

namespace HeaderBlock

variable {b : HeaderBlock} {rest : List UInt8}

theorem isHeader_of_not_refused {line : List Char} (hline : line ∈ b.lines)
    (h : ∀ fault, ¬ Refused line fault) : IsHeader line := by
  refine isHeader_of_refusal? (b.no_feed line hline) (b.not_blank line hline) ?_
  rw [Option.eq_none_iff_forall_ne_some]
  intro fault hfault
  exact h fault (refusal?_eq_some_iff.1 hfault)

theorem Rejected.readMessage {fault : HeaderFault} {left : List UInt8}
    (h : b.Rejected rest fault left) :
    readMessage (b.bytes ++ rest) = (.error (.header fault), left) := by
  cases h with
  | @line before after line _ hlines hbefore hline =>
    have hmem : line ∈ b.lines := by simp [hlines]
    have hheaders : ∀ other ∈ before, IsHeader other := fun other hother =>
      isHeader_of_not_refused (b := b) (by simp [hlines, hother]) (hbefore other hother)
    have hread := readMessage_refused hheaders (b.no_feed line hmem) (b.not_blank line hmem) hline
      (after.flatMap lineBytes ++ (lineBytes b.closing ++ rest))
    rw [bytes, hlines]
    simpa using hread
  | whole hother =>
    have hheaders : ∀ line ∈ b.lines, IsHeader line := by
      intro line hline
      refine isHeader_of_not_refused hline fun fault hfault => ?_
      obtain ⟨value, hvalue⟩ := hfault.exists_value
      exact hother line hline value hvalue
    rw [bytes, List.append_assoc]
    exact readMessage_noLength b.lines_ne_nil hheaders hother b.closing_blank rest

/-- A block that is not refused gives the length of a body. -/
theorem exists_rejected (b : HeaderBlock) (rest : List UInt8) :
    (∃ fault left, b.Rejected rest fault left) ∨
      ∃ length, readBlock [] {} (b.bytes ++ rest) = (.ok (some length), rest) := by
  cases hfind : b.lines.find? fun line => (refusal? line).isSome with
  | some line =>
    obtain ⟨hsome, before, after, hlines, hbefore⟩ := List.find?_eq_some_iff_append.1 hfind
    obtain ⟨fault, hfault⟩ := Option.isSome_iff_exists.1 hsome
    refine .inl ⟨fault, _, .line hlines ?_ (refusal?_eq_some_iff.1 hfault)⟩
    intro other hother fault hrefused
    have hnone := hbefore other hother
    rw [refusal?_eq_some_iff.2 hrefused] at hnone
    cases hnone
  | none =>
    have hheaders : ∀ line ∈ b.lines, IsHeader line := by
      intro line hline
      refine isHeader_of_refusal? (b.no_feed line hline) (b.not_blank line hline) ?_
      simpa using List.find?_eq_none.1 hfind line hline
    rcases exists_lastLength hheaders with hother | ⟨n, hlast⟩
    · exact .inl ⟨_, _, .whole hother⟩
    · right
      rw [bytes, List.append_assoc]
      exact ⟨n, readBlock_of_lastLength hheaders hlast b.closing_blank rest⟩

/-- What is behind the headers is never the fault of the headers. -/
theorem readMessage_ne_header {stream rest : List UInt8} {length : Nat}
    (h : readBlock [] {} stream = (.ok (some length), rest)) (fault : HeaderFault) :
    (Rpc.readMessage stream).1 ≠ .error (.header fault) := by
  rcases Nat.lt_or_ge rest.length length with hlt | hle
  · rw [readMessage_of_cutOff h hlt]
    nofun
  · rw [readMessage_of_body h hle]
    unfold Message.ofBody
    split
    · nofun
    · split <;> nofun

/-- A reading refuses a block exactly as the block is refused, and leaves what is left then. -/
theorem readMessage_eq_iff {fault : HeaderFault} {left : List UInt8} :
    Rpc.readMessage (b.bytes ++ rest) = (.error (.header fault), left) ↔
      b.Rejected rest fault left := by
  constructor
  · intro h
    rcases b.exists_rejected rest with ⟨fault', left', hrejected⟩ | ⟨length, hblock⟩
    · rw [hrejected.readMessage] at h
      cases h
      exact hrejected
    · exact absurd (congrArg Prod.fst h) (readMessage_ne_header hblock fault)
  · exact Rejected.readMessage

/-- The block is taken to its end only if it is refused as a whole. -/
theorem Rejected.left_eq_iff {fault : HeaderFault} {left : List UInt8}
    (h : b.Rejected rest fault left) : left = rest ↔ fault = .noLength := by
  cases h with
  | @line before after line _ _ _ hline =>
    constructor
    · intro hleft
      have hlength := congrArg List.length hleft
      rw [lineBytes_eq] at hlength
      simp only [List.length_append, List.length_singleton] at hlength
      omega
    · rintro rfl
      cases hline
  | whole => simp

end HeaderBlock

end ScriptAssist.Rpc
