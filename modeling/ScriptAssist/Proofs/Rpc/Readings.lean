import ScriptAssist.Rpc.Sink

/-!
# Successive readings

A stream is read by one call of `readMessage` after another, each on what the one before has left.
Every call takes a byte at least, as long as there is one (`readMessage_cons_suffix`), so the calls
come to an end: `readings` lists them up to the first that finds the end of the stream or cannot
read on.
-/

namespace ScriptAssist.Rpc

/-- One call of `readMessage`: what it gives, and what it leaves. -/
structure Reading where
  outcome : Except ReadFault (Option Message)
  rest : List UInt8

namespace Reading

/-- The call on a given stream. -/
def ofStream (stream : List UInt8) : Reading :=
  ⟨(readMessage stream).1, (readMessage stream).2⟩

/-- Whether it is the last one: the stream has ended, or it failed. -/
def isLast (r : Reading) : Bool :=
  match r.outcome with
  | .ok none => true
  | .ok (some _) => false
  | .error fault => fault.fault.kind = .io

end Reading

/-! ## Kinds of faults -/

/-- A fault is an input fault exactly if the stream is at fault. -/
theorem ReadFault.kind_eq_io_iff {fault : ReadFault} :
    fault.fault.kind = .io ↔ ∃ why, fault = .stream why := by
  constructor
  · intro h
    cases fault with
    | stream why => exact ⟨why, rfl⟩
    | header why => cases why <;> cases h
    | notText why => cases h
    | content why => cases why <;> cases h
  · rintro ⟨why, rfl⟩
    cases why <;> rfl

/-- Any other fault is a breach of the text or of the protocol. -/
theorem ReadFault.kind_cases (fault : ReadFault) :
    fault.fault.kind = .io ∨ fault.fault.kind = .parse ∨ fault.fault.kind = .invalidRequest := by
  cases fault with
  | stream why => cases why <;> exact .inl rfl
  | header why => cases why <;> exact .inr (.inr rfl)
  | notText why => exact .inr (.inl rfl)
  | content why =>
    cases why with
    | notJson => exact .inr (.inl rfl)
    | shapeless => exact .inr (.inr rfl)
    | misshapen => exact .inr (.inl rfl)

/-! ## What is behind a block -/

section Behind

variable {stream rest : List UInt8}

theorem readMessage_of_header {why : HeaderFault}
    (h : readBlock [] {} stream = (.error (.header why), rest)) :
    readMessage stream = (.error (.header why), rest) := by
  simp only [readMessage, Frame.read, h]

/-- A body that the stream holds is read. -/
theorem readMessage_of_body {length : Nat}
    (h : readBlock [] {} stream = (.ok (some length), rest)) (hbody : length ≤ rest.length) :
    readMessage stream = ((Message.ofBody (rest.take length)).map some, rest.drop length) := by
  have hlength : ¬ (rest.take length).length < length := by
    rw [List.length_take]
    omega
  simp only [readMessage, Frame.read, h, if_neg hlength]

theorem readMessage_of_cutOff {length : Nat}
    (h : readBlock [] {} stream = (.ok (some length), rest)) (hbody : rest.length < length) :
    readMessage stream = (.error (.stream .endInBody), []) := by
  have hlength : (rest.take length).length < length := by
    rw [List.length_take]
    omega
  simp only [readMessage, Frame.read, h, if_pos hlength]

end Behind

/-! ## What a reading takes -/

theorem readBlock_suffix (line : List UInt8) (block : Block) (stream : List UInt8) :
    (readBlock line block stream).2 <:+ stream := by
  induction stream generalizing line block with
  | nil =>
    unfold readBlock
    split
    · exact List.suffix_rfl
    · split <;> exact List.suffix_rfl
  | cons byte rest ih =>
    rw [readBlock]
    -- A line feed ends the line, and the block says what follows; other bytes join the line.
    split
    · split
      · exact (ih [] _).trans (List.suffix_cons byte rest)
      · exact List.suffix_cons byte rest
      · exact List.suffix_cons byte rest
    · exact (ih (byte :: line) block).trans (List.suffix_cons byte rest)

/-- Whatever comes of it, the first byte is taken. -/
theorem readBlock_cons_suffix (line : List UInt8) (block : Block) (byte : UInt8)
    (rest : List UInt8) : (readBlock line block (byte :: rest)).2 <:+ rest := by
  rw [readBlock]
  split
  · split
    · exact readBlock_suffix [] _ rest
    · exact List.suffix_rfl
    · exact List.suffix_rfl
  · exact readBlock_suffix (byte :: line) block rest

theorem readMessage_snd (stream : List UInt8) : (readMessage stream).2 = (Frame.read stream).2 := by
  unfold readMessage
  split <;> next h => rw [h]

theorem frameRead_suffix (stream : List UInt8) :
    (Frame.read stream).2 <:+ (readBlock [] {} stream).2 := by
  unfold Frame.read
  split
  · next h => simp [h]
  · next h => simp [h]
  · next length rest h =>
    rw [h]
    show (if (rest.take length).length < length then _ else _ : Except _ _ × List UInt8).2 <:+ rest
    split
    · exact List.nil_suffix
    · exact List.drop_suffix length rest

/-- A stream that has not ended loses its first byte at least. -/
theorem readMessage_cons_suffix (byte : UInt8) (rest : List UInt8) :
    (readMessage (byte :: rest)).2 <:+ rest := by
  rw [readMessage_snd]
  exact (frameRead_suffix _).trans (readBlock_cons_suffix [] {} byte rest)

theorem Reading.length_rest_lt {stream : List UInt8} (h : (ofStream stream).isLast = false) :
    (ofStream stream).rest.length < stream.length := by
  cases stream with
  | nil => cases h
  | cons byte rest =>
    have hle := (readMessage_cons_suffix byte rest).length_le
    exact Nat.lt_succ_of_le hle

/-! ## All readings -/

/-- The readings of a stream, up to the last one. -/
def readings (stream : List UInt8) : List Reading :=
  let r := Reading.ofStream stream
  if _h : r.isLast then [r] else r :: readings r.rest
termination_by stream.length
decreasing_by exact Reading.length_rest_lt (Bool.eq_false_iff.2 _h)

theorem readings_of_isLast {stream : List UInt8} (h : (Reading.ofStream stream).isLast = true) :
    readings stream = [.ofStream stream] := by
  rw [readings]
  exact dif_pos h

theorem readings_of_not_isLast {stream : List UInt8}
    (h : (Reading.ofStream stream).isLast = false) :
    readings stream = .ofStream stream :: readings (Reading.ofStream stream).rest := by
  conv => lhs; rw [readings]
  exact dif_neg (by simp [h])

theorem Reading.ofStream_of_readings {stream : List UInt8} {r : Reading} {rs : List Reading}
    (h : readings stream = r :: rs) : ofStream stream = r := by
  rw [readings] at h
  split at h <;> exact (List.cons.inj h).1

/-! ## Writing -/

theorem Sink.write_append (sink : Sink) (bytes later : List UInt8) :
    sink.write (bytes ++ later) =
      match sink.write bytes with
      | (sink', .ok ()) => sink'.write later
      | (sink', .error fault) => (sink', .error fault) := by
  obtain ⟨written, room?⟩ := sink
  cases room? with
  | none => simp [write, List.append_assoc]
  | some room =>
    simp only [write, List.take_append, List.length_append, ← Nat.sub_sub]
    by_cases hfits : bytes.length ≤ room
    · have hlater : bytes.length + later.length ≤ room ↔ later.length ≤ room - bytes.length := by
        omega
      simp only [if_pos hfits, hlater, List.append_assoc]
    · have hlater : ¬ bytes.length + later.length ≤ room := by omega
      have hnone : room - bytes.length = 0 := by omega
      simp [hfits, hlater, hnone]

/-- Messages are written one by one, and it is as if their frames were written at once. -/
theorem Sink.send_eq_write (sink : Sink) (ms : List Message) :
    sink.send ms = sink.write (ms.flatMap Message.frame) := by
  induction ms generalizing sink with
  | nil =>
    obtain ⟨written, room?⟩ := sink
    cases room? <;> simp [send, write]
  | cons m ms ih =>
    rw [send, List.flatMap_cons, write_append]
    obtain ⟨sink', outcome⟩ := sink.write m.frame
    cases outcome with
    | ok _ => exact ih sink'
    | error fault => rfl

/-- A sink that never fills up takes all messages. -/
theorem Sink.send_of_room (written : List UInt8) (ms : List Message) :
    Sink.send ⟨written, none⟩ ms = (⟨written ++ ms.flatMap Message.frame, none⟩, .ok ()) := by
  rw [send_eq_write]
  rfl

end ScriptAssist.Rpc
