import ScriptAssist.Proofs.Rpc.Conversion
import ScriptAssist.Proofs.Rpc.Layout

/-!
# Messages there and back

Messages that are written to a sink are read back from what was written: the same messages in the
same order, and nothing is left over (`readings_send`). Two things carry the proof. A frame that is
written is one of the layouts that are read (`encode_eq_bytes`), and the keys of a message that is
written tell its kind, so that reading it finds each member where it was put (`ofValue_sorted`).
-/

namespace ScriptAssist.Rpc

open Json Text

/-! ## Frames -/

/-- The header that a frame is written with. -/
def plainHeader (n : Nat) : List Char :=
  Frame.lengthKey.toList ++ ':' :: ([' '] ++ Nat.toDigits 10 n ++ ['\r'])

theorem givesLength_plainHeader (n : Nat) : GivesLength (plainHeader n) n := by
  have hline : LengthHeader (plainHeader n) ([' '] ++ Nat.toDigits 10 n ++ ['\r']) :=
    .intro (a := []) (b := []) (rfl : IsLengthKey Frame.lengthKey.toList) .nil .nil
  exact .intro hline (by decide) (by decide) (Word64.spells_toDigits n)

theorem isHeader_plainHeader {n : Nat} (hn : n ≤ Frame.maxLength) : IsHeader (plainHeader n) := by
  have hfeed : '\n' ∉ plainHeader n := by
    have hdigits : '\n' ∉ Nat.toDigits 10 n := fun h =>
      absurd (Nat.isDigit_of_mem_toDigits (by decide) (by decide) h) (by decide)
    have hkey : '\n' ∉ Frame.lengthKey.toList := by decide
    simp [plainHeader, hdigits, hkey]
  have hblank : ¬ AllBlank (plainHeader n) := fun h =>
    absurd (h ':' (by simp [plainHeader])) (by decide)
  exact isHeader_of_lengthOf hfeed hblank _
    (lengthOf_trim_of_givesLength (givesLength_plainHeader n) hn)

/-- The layout in which frames are written. -/
def Layout.plain (text : String) (h : text.utf8ByteSize ≤ Frame.maxLength) : Layout where
  leading := []
  headers := [plainHeader text.utf8ByteSize]
  closing := ['\r']
  body := Utf8.encode text
  leading_blank := no_leading_blank
  headers_valid line hline := by
    rw [List.mem_singleton.1 hline]
    exact isHeader_plainHeader h
  closing_blank := ⟨by decide, by decide⟩
  last_length := by
    rw [Utf8.length_encode]
    show LastLength ([] ++ plainHeader text.utf8ByteSize :: []) _
    exact .intro (givesLength_plainHeader _) (List.forall_mem_nil _)

theorem encode_eq_bytes (text : String) (h : text.utf8ByteSize ≤ Frame.maxLength) :
    Frame.encode text = (Layout.plain text h).bytes := by
  -- The carriage returns count as the last characters of the two lines.
  have hhead : s!"{Frame.lengthKey}: {text.utf8ByteSize}\r\n\r\n" =
      String.ofList (plainHeader text.utf8ByteSize ++ ['\n']) ++ String.ofList ['\r', '\n'] := by
    apply String.toList_injective
    simp [plainHeader]
    rfl
  show Utf8.encode s!"{Frame.lengthKey}: {text.utf8ByteSize}\r\n\r\n" ++ _ = _
  rw [hhead, Utf8.encode_append]
  simp [Layout.bytes, Layout.plain, lineBytes]

namespace Message

/-- The bytes of a message: a header with the length of its text, a blank line, and the text. -/
theorem frame_eq (m : Message) :
    m.frame = Utf8.encode s!"Content-Length: {m.render.utf8ByteSize}\r\n\r\n{m.render}" := by
  have hkey : Frame.lengthKey ++ ": " = "Content-Length: " := rfl
  show Utf8.encode s!"{Frame.lengthKey}: {m.render.utf8ByteSize}\r\n\r\n" ++ _ = _
  rw [← Utf8.encode_append]
  simp only [toString, hkey]

end Message

/-! ## Streams -/

namespace Message

/-- A message that can be written and read back: its text is not too long, and is read as the value
that it was printed for. -/
structure Sendable (m : Message) : Prop extends Proper m where
  answered : m.Answered
  size_le : m.render.utf8ByteSize ≤ Frame.maxLength
  parse_render : Value.parse m.render = .ok m.toValue.sorted

/-- A request or notification is printed inside one pair of brackets more than what is in it. -/
theorem printable_toValue {m : Message} (hcall : m.method?.isSome) {depth : Nat}
    (h : ∀ v ∈ m.values, v.Printable depth) : m.toValue.Printable (depth + 1) := by
  have hmember : ∀ {key : String} {value? : Option Value},
      (∀ v ∈ value?.toList, v.Printable depth) →
        ∀ entry ∈ optionalMember key value?, entry.2.Printable depth := by
    intro key value? hvalue entry hentry
    obtain ⟨v, hv, rfl⟩ := List.mem_map.1 hentry
    exact hvalue v hv
  cases m with
  | response r => cases hcall
  | request r =>
    obtain ⟨hid, hparams⟩ := List.forall_mem_cons.1 h
    refine .object fun entry hentry => ?_
    rcases List.mem_append.1 hentry with hfixed | hoptional
    · simp only [List.mem_cons, List.not_mem_nil, or_false] at hfixed
      rcases hfixed with rfl | rfl | rfl
      · exact .text _
      · exact hid
      · exact .text _
    · exact hmember hparams entry hoptional
  | notification n =>
    refine .object fun entry hentry => ?_
    rcases List.mem_append.1 hentry with hfixed | hoptional
    · simp only [List.mem_cons, List.not_mem_nil, or_false] at hfixed
      rcases hfixed with rfl | rfl <;> exact .text _
    · exact hmember h entry hoptional

/-- A request or notification can be sent if the values in it can be printed. -/
theorem Sendable.of_call {m : Message} (hcall : m.method?.isSome)
    (hvalues : ∀ v ∈ m.values, v.sorted = v ∧ v.Printable (maxDepth - 2))
    (hsize : m.render.utf8ByteSize ≤ Frame.maxLength) : m.Sendable where
  values_sorted v hv := (hvalues v hv).1
  code_fits _ _ hresponse _ := by
    rw [hresponse] at hcall
    cases hcall
  answered := by
    cases m with
    | response r => cases hcall
    | request r => trivial
    | notification n => trivial
  size_le := hsize
  parse_render := Json.parse_render (printable_toValue hcall fun v hv => (hvalues v hv).2)

/-- The answer that a request failed can be sent if the id of the request can be printed. -/
theorem Sendable.of_failure {id : Value} {fault : Fault}
    (hid : id.sorted = id ∧ id.Printable (maxDepth - 2))
    (hsize : (Message.response (.failure id fault)).render.utf8ByteSize ≤ Frame.maxLength) :
    (Message.response (.failure id fault)).Sendable where
  values_sorted := List.forall_mem_singleton.2 hid.1
  code_fits := by
    rintro _ _ ⟨rfl⟩ ⟨rfl⟩
    show -0x80000000 ≤ fault.kind.code ∧ fault.kind.code ≤ 0x7FFFFFFF
    cases fault.kind <;> decide
  answered := .inr rfl
  size_le := hsize
  parse_render := by
    refine Json.parse_render ?_
    have hcode : Value.Printable 125 (.int fault.kind.code) := by
      refine .int ?_ ?_ <;> cases fault.kind <;> decide
    have herror : fault.toErrorObject.toValue.Printable 126 :=
      .object (List.forall_mem_cons.2 ⟨hcode, List.forall_mem_singleton.2 (.text _)⟩)
    have hmessage : (Response.failure id fault).toValue.Printable 127 :=
      .object (List.forall_mem_cons.2 ⟨.text _,
        List.forall_mem_cons.2 ⟨hid.2, List.forall_mem_singleton.2 herror⟩⟩)
    exact hmessage

/-- Reading a frame that was written gives the message, and leaves what follows. -/
theorem Sendable.readings_frame {m : Message} (h : m.Sendable) (rest : List UInt8) :
    readings (m.frame ++ rest) = ⟨.ok (some m.settled), rest⟩ :: readings rest := by
  have htext : ofText m.render = .ok m.settled := by
    rw [ofText, h.parse_render]
    exact ofValue_sorted h.toProper h.answered
  have hbody : ofBody (Utf8.encode m.render) = .ok m.settled := by
    rw [ofBody_encode, htext]
    rfl
  rw [frame, encode_eq_bytes _ h.size_le, Layout.readings_bytes]
  show Reading.mk ((ofBody (Utf8.encode m.render)).map some) rest :: _ = _
  rw [hbody]
  rfl

end Message

theorem readings_nil : readings [] = [⟨.ok none, []⟩] :=
  readings_of_isLast rfl

/-- The readings of messages that are written one after another. -/
def readingsOf : List Message → List Reading
  | [] => []
  | m :: ms => ⟨.ok (some m.settled), ms.flatMap Message.frame⟩ :: readingsOf ms

theorem map_outcome_readingsOf (ms : List Message) :
    (readingsOf ms).map Reading.outcome = ms.map fun m => .ok (some m.settled) := by
  induction ms with
  | nil => rfl
  | cons m ms ih => exact congrArg (List.cons _) ih

/-- Messages that are written are read back in order. Then the stream has ended, and nothing is
left of it. -/
theorem readings_frames {ms : List Message} (h : ∀ m ∈ ms, m.Sendable) :
    readings (ms.flatMap Message.frame) = readingsOf ms ++ [⟨.ok none, []⟩] := by
  induction ms with
  | nil => exact readings_nil
  | cons m ms ih =>
    obtain ⟨hm, hms⟩ := List.forall_mem_cons.1 h
    rw [List.flatMap_cons, hm.readings_frame, ih hms]
    rfl

/-- Messages that are written to a sink one after another are read back from what was written: the
same messages in the same order, but for members that were null, and then the end of the stream,
with nothing left. It is enough that the text of each message is read as the value that it was
printed for, and it is for all messages without doubles that are not nested too deeply. -/
theorem readings_send :
    (∀ ms : List Message, (∀ m ∈ ms, m.Sendable) →
      (Sink.send {} ms).2 = .ok () ∧
      (readings (Sink.send {} ms).1.written).map Reading.outcome =
        ms.map (fun m => .ok (some m.settled)) ++ [.ok none] ∧
      (readings (Sink.send {} ms).1.written).getLast?.map Reading.rest = some []) ∧
    (∀ m : Message, m.toValue.Printable (maxDepth - 1) →
      Value.parse m.render = .ok m.toValue.sorted) := by
  refine ⟨fun ms h => ?_, fun m h => parse_render h⟩
  have hsend : Sink.send {} ms = (⟨ms.flatMap Message.frame, none⟩, .ok ()) :=
    Sink.send_of_room [] ms
  rw [hsend]
  refine ⟨rfl, ?_, ?_⟩
  · show (readings (ms.flatMap Message.frame)).map _ = _
    rw [readings_frames h, List.map_append, map_outcome_readingsOf]
    rfl
  · show (readings (ms.flatMap Message.frame)).getLast?.map _ = _
    rw [readings_frames h, List.getLast?_concat]
    rfl

namespace Sample

/-- The answer that a request failed, with data that are null. -/
def failed : Response where
  id := .text "no. 7"
  error? := some { code := -32700, message := "\"ü\"\n", data? := some .null }

/-- A notification of another version, in characters of one to four bytes. -/
def moved : Notification where
  version := "1"
  method := "größe/☃/😀"
  params? := some (.array [.int (-1), .null])

theorem sendable_failed : (Message.response failed).Sendable where
  values_sorted := List.forall_mem_cons.2 ⟨rfl, List.forall_mem_singleton.2 rfl⟩
  code_fits := by
    rintro _ _ ⟨rfl⟩ ⟨rfl⟩
    decide
  answered := .inr rfl
  size_le := by decide +kernel
  parse_render := by
    have herror : Value.Printable 126 (.object [("code", .int (-32700)),
        ("message", .text "\"ü\"\n"), ("data", .null)]) :=
      .object (List.forall_mem_cons.2 ⟨.int (by decide) (by decide),
        List.forall_mem_cons.2 ⟨.text _, List.forall_mem_singleton.2 .null⟩⟩)
    have hmessage : failed.toValue.Printable 127 :=
      .object (List.forall_mem_cons.2 ⟨.text _,
        List.forall_mem_cons.2 ⟨.text _, List.forall_mem_singleton.2 herror⟩⟩)
    exact Json.parse_render hmessage

theorem printable_moved : (Message.notification moved).toValue.Printable (maxDepth - 1) := by
  have hparams : Value.Printable 126 (.array [.int (-1), .null]) :=
    .array (List.forall_mem_cons.2 ⟨.int (by decide) (by decide),
      List.forall_mem_singleton.2 .null⟩)
  show moved.toValue.Printable 127
  exact .object (List.forall_mem_cons.2 ⟨.text _,
    List.forall_mem_cons.2 ⟨.text _, List.forall_mem_singleton.2 hparams⟩⟩)

theorem sendable_moved : (Message.notification moved).Sendable where
  values_sorted := List.forall_mem_singleton.2 rfl
  code_fits := by
    rintro _ _ ⟨⟩
  answered := trivial
  size_le := by decide +kernel
  parse_render := Json.parse_render printable_moved

end Sample

open Sample in
/-- The data that were null are gone, and all else is there. -/
theorem readings_send_sample :
    (readings (Sink.send {} [.response failed, .notification moved]).1.written).map
        Reading.outcome =
      [.ok (some (.response { failed with error? := some ⟨-32700, "\"ü\"\n", none⟩ })),
        .ok (some (.notification moved)), .ok none] ∧
    Value.parse (Message.notification moved).render =
      .ok (.object [("jsonrpc", .text "1"), ("method", .text "größe/☃/😀"),
        ("params", .array [.int (-1), .null])]) := by
  have hsendable : ∀ m ∈ [Message.response failed, .notification moved], m.Sendable :=
    List.forall_mem_cons.2 ⟨sendable_failed, List.forall_mem_singleton.2 sendable_moved⟩
  exact ⟨(readings_send.1 _ hsendable).2.1, readings_send.2 _ printable_moved⟩

end ScriptAssist.Rpc
