import ScriptAssist.Proofs.Rpc.HeaderBlock
import ScriptAssist.Proofs.Rpc.Readings

/-!
# Layouts of frames

A frame may be laid out in many ways: with blank lines before it, with other headers in any order,
with its length given more than once. A `Layout` is any of these. The main statements are that the
message read depends on the body alone, and that a frame takes up its own bytes and no more,
whatever its body holds (`readMessage_layouts`).
-/

namespace ScriptAssist.Rpc

open Text

/-- The length that is given last in header lines. -/
inductive LastLength : (lines : List (List Char)) → Nat → Prop
  | intro {before after : List (List Char)} {line : List Char} {n : Nat}
      (hline : GivesLength line n)
      (hafter : ∀ other ∈ after, ∀ value, ¬ LengthHeader other value) :
      LastLength (before ++ line :: after) n

/-- A frame as it stands on a stream. -/
structure Layout where
  /-- Blank lines before the frame. -/
  leading : List (List Char)
  headers : List (List Char)
  /-- The blank line that ends the headers. -/
  closing : List Char
  body : List UInt8
  leading_blank : ∀ line ∈ leading, IsBlankLine line
  headers_valid : ∀ line ∈ headers, IsHeader line
  closing_blank : IsBlankLine closing
  last_length : LastLength headers body.length

namespace Layout

theorem no_leading_blank : ∀ line ∈ ([] : List (List Char)), IsBlankLine line :=
  List.forall_mem_nil _

/-- The bytes of the frame. -/
def bytes (l : Layout) : List UInt8 :=
  l.leading.flatMap lineBytes ++ l.headers.flatMap lineBytes ++ lineBytes l.closing ++ l.body

end Layout

/-- The lines of a block leave the length that was given last. -/
theorem readBlock_lastLength {lines : List (List Char)} (h : ∀ line ∈ lines, IsHeader line)
    {n : Nat} (hlast : LastLength lines n) (block : Block)
    (rest : List UInt8) :
    readBlock [] block (lines.flatMap lineBytes ++ rest) = readBlock [] ⟨true, some n⟩ rest := by
  obtain @⟨before, after, line, n, hline, hafter⟩ := hlast
  rw [List.flatMap_append, List.flatMap_cons, List.append_assoc, List.append_assoc]
  obtain ⟨block', hblock'⟩ := readBlock_headers
    (fun other hother => h other (List.mem_append_left _ hother)) block
    (lineBytes line ++ (after.flatMap lineBytes ++ rest))
  -- Whatever the lines before have left, this one takes its place, and none behind it does.
  rw [hblock', readBlock_givesLength (h line (by simp)) hline]
  exact readBlock_others (fun other hother => h other (by simp [hother])) hafter (some n) rest

namespace Layout

/-- The body is read, and what follows it is left. -/
theorem read_bytes (l : Layout) (rest : List UInt8) :
    Frame.read (l.bytes ++ rest) = (.ok (some l.body), rest) := by
  have hblock : readBlock [] {} (l.bytes ++ rest) = (.ok (some l.body.length), l.body ++ rest) := by
    rw [bytes, List.append_assoc, List.append_assoc, List.append_assoc,
      readBlock_blankLines l.leading_blank rfl,
      readBlock_lastLength l.headers_valid l.last_length,
      readBlock_closing l.closing_blank]
  rw [Frame.read, hblock]
  simp

theorem readMessage_bytes (l : Layout) (rest : List UInt8) :
    readMessage (l.bytes ++ rest) = ((Message.ofBody l.body).map some, rest) := by
  rw [readMessage, l.read_bytes]

end Layout

/-! ## Bodies -/

/-- A body that is a text is read as that text is. -/
theorem Message.ofBody_encode (text : String) :
    ofBody (Utf8.encode text) = (ofText text).mapError .content := by
  rw [ofBody, Utf8.decode_encode]
  cases h : ofText text <;> simp [Except.mapError, h]

/-- A body that is no text is refused as such. -/
theorem Message.exists_ofBody_eq_notText {body : List UInt8}
    (h : ∀ text, body ≠ Utf8.encode text) : ∃ why, ofBody body = .error (.notText why) := by
  cases hdecode : Utf8.decode body with
  | ok text => exact absurd (Utf8.decode_eq_ok_iff.1 hdecode) (h text)
  | error why => exact ⟨why, by rw [ofBody, hdecode]⟩

/-- Nothing that a body holds breaks the stream. -/
theorem Message.isLast_ofBody (body rest : List UInt8) :
    (Reading.mk ((ofBody body).map some) rest).isLast = false := by
  unfold ofBody
  split
  · rfl
  · split
    · rfl
    · next why _ => cases why <;> rfl

theorem Layout.readings_bytes (l : Layout) (rest : List UInt8) :
    readings (l.bytes ++ rest) = ⟨(Message.ofBody l.body).map some, rest⟩ :: readings rest := by
  have hreading : Reading.ofStream (l.bytes ++ rest) =
      ⟨(Message.ofBody l.body).map some, rest⟩ := by
    rw [Reading.ofStream, l.readMessage_bytes]
  have hlast : (Reading.ofStream (l.bytes ++ rest)).isLast = false := by
    rw [hreading]
    exact Message.isLast_ofBody l.body rest
  rw [readings_of_not_isLast hlast, hreading]

/-- Frames one after another are each read by their own bodies, and what follows them is read as
if it stood alone. -/
theorem outcomes_layouts (frames : List Layout) (rest : List UInt8) :
    (readings (frames.flatMap Layout.bytes ++ rest)).map Reading.outcome =
      frames.map (fun l => (Message.ofBody l.body).map some) ++
        (readings rest).map Reading.outcome := by
  induction frames with
  | nil => rfl
  | cons l frames ih =>
    rw [List.flatMap_cons, List.append_assoc, l.readings_bytes, List.map_cons, ih]
    rfl

/-- A frame is read by its body: as the message that the body spells, or with the fault of a body
that spells none. What follows the frame is left alone, so its other headers, their order and the
lengths given before the last do not matter, and no body disturbs the frames behind it. -/
theorem readMessage_layouts :
    (∀ (l : Layout) (text : String) (rest : List UInt8), l.body = Utf8.encode text →
      readMessage (l.bytes ++ rest) =
        (((Message.ofText text).mapError .content).map some, rest)) ∧
    (∀ (l : Layout) (rest : List UInt8), (∀ text, l.body ≠ Utf8.encode text) →
      ∃ fault, fault.fault.kind = .parse ∧
        readMessage (l.bytes ++ rest) = (.error fault, rest)) ∧
    (∀ (l l' : Layout) (rest : List UInt8), l.body = l'.body →
      readMessage (l.bytes ++ rest) = readMessage (l'.bytes ++ rest)) ∧
    (∀ (frames : List Layout) (rest : List UInt8),
      (readings (frames.flatMap Layout.bytes ++ rest)).map Reading.outcome =
        frames.map (fun l => (Message.ofBody l.body).map some) ++
          (readings rest).map Reading.outcome) := by
  refine ⟨fun l text rest hbody => ?_, fun l rest hbody => ?_, fun l l' rest hbody => ?_,
    outcomes_layouts⟩
  · rw [l.readMessage_bytes, hbody, Message.ofBody_encode]
  · obtain ⟨why, hwhy⟩ := Message.exists_ofBody_eq_notText hbody
    refine ⟨.notText why, rfl, ?_⟩
    rw [l.readMessage_bytes, hwhy]
    rfl
  · rw [l.readMessage_bytes, l'.readMessage_bytes, hbody]

/-- A frame with blank lines before it, another header, and its length given twice, in spellings
that nobody would choose. -/
def Layout.untidy (body : List UInt8) (h : body.length = 2) : Layout where
  leading := [['\r'], []]
  headers := ["X-Other".toList, "content-length: 99\r".toList, " CONTENT-LENGTH :+2 \r".toList]
  closing := [' ', '\r']
  body := body
  leading_blank := by
    intro line hline
    simp only [List.mem_cons, List.not_mem_nil, or_false] at hline
    rcases hline with rfl | rfl <;> exact ⟨by decide, by decide⟩
  headers_valid := by
    intro line hline
    simp only [List.mem_cons, List.not_mem_nil, or_false] at hline
    rcases hline with rfl | rfl | rfl
    · exact isHeader_of_lengthOf (by decide) (by decide) none (by decide)
    · exact isHeader_of_lengthOf (by decide) (by decide) (some 99) (by decide)
    · exact isHeader_of_lengthOf (by decide) (by decide) (some 2) (by decide)
  closing_blank := ⟨by decide, by decide⟩
  last_length := by
    have hkey : IsLengthKey "CONTENT-LENGTH".toList := by
      rw [IsLengthKey]
      decide
    have hline : LengthHeader " CONTENT-LENGTH :+2 \r".toList "+2 \r".toList :=
      .intro (a := [' ']) (b := [' ']) hkey (by decide) (by decide)
    have hgives : GivesLength " CONTENT-LENGTH :+2 \r".toList 2 :=
      .intro (a := []) (b := [' ', '\r']) hline (by decide) (by decide)
        (.signed (s := ['2']) (by decide) (List.forall_mem_singleton.2 rfl))
    rw [h]
    show LastLength (["X-Other".toList, "content-length: 99\r".toList] ++ _ :: []) 2
    exact .intro hgives (by simp)

/-- The frame without the blank lines before it. -/
def Layout.bare (l : Layout) : Layout :=
  { l with leading := [], leading_blank := no_leading_blank }

/-- The frame is read as the text in it, or refused for the bytes in it, with blank lines before it
or without. -/
theorem readMessage_untidy :
    readMessage ((Layout.untidy (Utf8.encode "[]") rfl).bytes ++ [67]) =
      (.error (.content .shapeless), [67]) ∧
    (∃ fault, fault.fault.kind = .parse ∧
      readMessage ((Layout.untidy [0xFF, 0xFE] rfl).bytes ++ [67]) = (.error fault, [67])) ∧
    readMessage ((Layout.untidy (Utf8.encode "[]") rfl).bytes ++ [67]) =
      readMessage ((Layout.untidy (Utf8.encode "[]") rfl).bare.bytes ++ [67]) := by
  refine ⟨?_, ?_, readMessage_layouts.2.2.1 _ _ _ rfl⟩
  · have hshape : Message.ofText "[]" = .error .shapeless := by rfl
    rw [readMessage_layouts.1 (.untidy (Utf8.encode "[]") rfl) "[]" [67] rfl, hshape]
    rfl
  · refine readMessage_layouts.2.1 (.untidy [0xFF, 0xFE] rfl) [67] fun text htext => ?_
    have hbytes : [0xFF, 0xFE] = Utf8.encode text := htext
    have hdecode : Utf8.decode [0xFF, 0xFE] = .error ⟨0, some 1⟩ := by decide
    rw [Utf8.decode_eq_ok_iff.2 hbytes] at hdecode
    cases hdecode

end ScriptAssist.Rpc
