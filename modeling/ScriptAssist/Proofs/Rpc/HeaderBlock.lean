import ScriptAssist.Proofs.Rpc.HeaderLine

/-!
# Header blocks

A block of header lines is read line by line, and each line costs exactly its own bytes. Blank
lines before the block change nothing (`readBlock_blankLines`); the lines of the block only leave
behind the length that was given last (`readBlock_headers`, `readBlock_others`); and a blank line
ends the block with it (`readBlock_closing`).
-/

namespace ScriptAssist.Rpc

open Text

/-- The bytes of a line and of the line feed behind it. If the line is ended by a carriage return
and a line feed, the carriage return counts as its last character, which is a blank. -/
def lineBytes (line : List Char) : List UInt8 :=
  Utf8.encode (String.ofList (line ++ ['\n']))

/-- A line of blanks. -/
structure IsBlankLine (line : List Char) : Prop where
  no_feed : '\n' ∉ line
  blank : AllBlank line

/-- A line that a header block may have: not blank, and if it is a length header, it gives a
length that is not too large. -/
structure IsHeader (line : List Char) : Prop where
  no_feed : '\n' ∉ line
  not_blank : ¬ AllBlank line
  length_given : ∀ value, LengthHeader line value → ∃ n ≤ Frame.maxLength, GivesLength line n

/-- How reading goes on behind a line. -/
def LineOutcome.resume (rest : List UInt8) :
    LineOutcome → Except ReadFault (Option Nat) × List UInt8
  | more block => readBlock [] block rest
  | body length => (.ok (some length), rest)
  | fault why => (.error why, rest)

/-! ## One line -/

theorem lineBytes_eq (line : List Char) :
    lineBytes line = Utf8.encode (String.ofList line) ++ [lineFeed] := by
  simp only [lineBytes, Utf8.encode_ofList, List.flatMap_append]
  rfl

/-- Bytes are gathered up to the first line feed. -/
theorem readBlock_upToFeed {bytes : List UInt8} (hfeed : lineFeed ∉ bytes) (line : List UInt8)
    (block : Block) (rest : List UInt8) :
    readBlock line block (bytes ++ lineFeed :: rest) =
      (block.addLine (line.reverse ++ bytes ++ [lineFeed])).resume rest := by
  induction bytes generalizing line with
  | nil =>
    rw [List.nil_append, List.append_nil, readBlock, if_pos rfl, List.reverse_cons]
    cases block.addLine (line.reverse ++ [lineFeed]) <;> rfl
  | cons byte bytes ih =>
    -- The bytes so far are held last one first, so one more goes to the front.
    rw [List.mem_cons, not_or] at hfeed
    rw [List.cons_append, readBlock, if_neg (Ne.symm hfeed.1), ih hfeed.2, List.reverse_cons]
    simp

theorem addLine_lineBytes (block : Block) (line : List Char) :
    block.addLine (lineBytes line) = block.addText (trim line) := by
  have hblank : AllBlank ['\n'] := allBlank_singleton (by decide)
  rw [Block.addLine, lineBytes, Utf8.decode_encode]
  simp only [String.toList_ofList, trim_append_blanks hblank]

/-- A line is taken in as the text that is left when its blanks are cut off. -/
theorem readBlock_line {line : List Char} (hfeed : '\n' ∉ line) (block : Block)
    (rest : List UInt8) :
    readBlock [] block (lineBytes line ++ rest) = (block.addText (trim line)).resume rest := by
  have hbytes : lineFeed ∉ Utf8.encode (String.ofList line) :=
    fun h => hfeed (Utf8.feed_mem_encode_iff.1 h)
  rw [← addLine_lineBytes, lineBytes_eq, List.append_assoc]
  exact readBlock_upToFeed hbytes [] block rest

/-! ## Lines of a frame -/

/-- A line is a header as soon as it is not refused. -/
theorem isHeader_of_lengthOf {line : List Char} (hfeed : '\n' ∉ line) (hblank : ¬ AllBlank line)
    (length? : Option Nat) (hlength : Block.lengthOf (trim line) = .ok length?) :
    IsHeader line where
  no_feed := hfeed
  not_blank := hblank
  length_given value hvalue := by
    obtain ⟨n, hn, hgives, -⟩ := givesLength_of_lengthOf hvalue hlength
    exact ⟨n, hn, hgives⟩

/-- A length that a header gives is not too large. -/
theorem IsHeader.length_le {line : List Char} (hline : IsHeader line) {n : Nat}
    (h : GivesLength line n) : n ≤ Frame.maxLength := by
  obtain ⟨value, hvalue⟩ := h.lengthHeader
  obtain ⟨m, hm, hgives⟩ := hline.length_given value hvalue
  rwa [h.unique hgives]

theorem addText_header {line : List Char} (hline : ¬ AllBlank line) {length? : Option Nat}
    (hlength : Block.lengthOf (trim line) = .ok length?) (block : Block) :
    block.addText (trim line) = .more ⟨true, length?.or block.length?⟩ := by
  have hne : (trim line).isEmpty = false := by
    rw [Bool.eq_false_iff, ne_eq, List.isEmpty_iff, trim_eq_nil_iff]
    exact hline
  rw [Block.addText, hne]
  cases length? <;> simp [hlength]

/-- Blank lines before a block are passed over. -/
theorem readBlock_blankLines {lines : List (List Char)} (h : ∀ line ∈ lines, IsBlankLine line)
    {block : Block} (hblock : block.begun = false) (rest : List UInt8) :
    readBlock [] block (lines.flatMap lineBytes ++ rest) = readBlock [] block rest := by
  induction lines with
  | nil => rfl
  | cons line lines ih =>
    have hline := h line (by simp)
    have hsame : block.addText [] = .more block := by simp [Block.addText, hblock]
    rw [List.flatMap_cons, List.append_assoc, readBlock_line hline.no_feed,
      trim_eq_nil_iff.2 hline.blank, hsame]
    exact ih fun other hother => h other (by simp [hother])

/-- A line that gives a length puts it in the place of any other. -/
theorem readBlock_givesLength {line : List Char} (hline : IsHeader line) {n : Nat}
    (hgives : GivesLength line n) (block : Block) (rest : List UInt8) :
    readBlock [] block (lineBytes line ++ rest) = readBlock [] ⟨true, some n⟩ rest := by
  rw [readBlock_line hline.no_feed,
    addText_header hline.not_blank (lengthOf_trim_of_givesLength hgives (hline.length_le hgives))]
  rfl

/-- A line that is no length header only begins the block. -/
theorem readBlock_other {line : List Char} (hline : IsHeader line)
    (hother : ∀ value, ¬ LengthHeader line value) (block : Block) (rest : List UInt8) :
    readBlock [] block (lineBytes line ++ rest) = readBlock [] ⟨true, block.length?⟩ rest := by
  rw [readBlock_line hline.no_feed,
    addText_header hline.not_blank (lengthOf_trim_of_other hother)]
  rfl

/-- Whatever lines have gone before, reading goes on behind them. -/
theorem readBlock_headers {lines : List (List Char)} (h : ∀ line ∈ lines, IsHeader line)
    (block : Block) (rest : List UInt8) :
    ∃ block', readBlock [] block (lines.flatMap lineBytes ++ rest) = readBlock [] block' rest := by
  induction lines generalizing block with
  | nil => exact ⟨block, rfl⟩
  | cons line lines ih =>
    have hline := h line (by simp)
    have hlines : ∀ other ∈ lines, IsHeader other := fun other hother => h other (by simp [hother])
    rw [List.flatMap_cons, List.append_assoc]
    -- A length header is never refused here, because the length that it gives is a good one.
    by_cases hlength : ∃ value, LengthHeader line value
    · obtain ⟨value, hvalue⟩ := hlength
      obtain ⟨n, -, hgives⟩ := hline.length_given value hvalue
      rw [readBlock_givesLength hline hgives]
      exact ih hlines _
    · rw [readBlock_other hline (not_exists.1 hlength)]
      exact ih hlines _

/-- Lines that are no length headers leave a block that has begun as it is. -/
theorem readBlock_others {lines : List (List Char)} (h : ∀ line ∈ lines, IsHeader line)
    (hother : ∀ line ∈ lines, ∀ value, ¬ LengthHeader line value) (length? : Option Nat)
    (rest : List UInt8) :
    readBlock [] ⟨true, length?⟩ (lines.flatMap lineBytes ++ rest) =
      readBlock [] ⟨true, length?⟩ rest := by
  induction lines with
  | nil => rfl
  | cons line lines ih =>
    rw [List.flatMap_cons, List.append_assoc,
      readBlock_other (h line (by simp)) (hother line (by simp))]
    exact ih (fun other hmem => h other (by simp [hmem]))
      (fun other hmem => hother other (by simp [hmem]))

/-- A blank line ends the block. -/
theorem readBlock_closing {line : List Char} (hline : IsBlankLine line) (n : Nat)
    (rest : List UInt8) :
    readBlock [] ⟨true, some n⟩ (lineBytes line ++ rest) = (.ok (some n), rest) := by
  rw [readBlock_line hline.no_feed, trim_eq_nil_iff.2 hline.blank]
  rfl

end ScriptAssist.Rpc
