import Mathlib.Logic.Function.Iterate
import ScriptAssist.Proofs.Rpc.Layout

/-!
# Bytes that come later

A reading depends on the bytes that it takes and on no others. If the header lines that it has read
are whole, that is, the last one has its line feed, then more bytes behind the stream change
nothing: the outcome is the same, and the new bytes stand behind those that are left
(`Reading.ofStream_append`). A line that is cut off by the end of the stream is the one exception,
since more bytes belong to it.
-/

namespace ScriptAssist.Rpc

/-! ## The specification -/

/-- The header lines that are read from a stream end with a line feed. -/
def WholeHeaders (stream : List UInt8) : Prop :=
  ∃ headers, stream = headers ++ lineFeed :: (readBlock [] {} stream).2

/-- A message was read, or one that is none: its text or its headers break the rules. -/
def Reading.Decided (r : Reading) : Prop :=
  (∃ m, r.outcome = .ok (some m)) ∨
    ∃ fault, r.outcome = .error fault ∧
      (fault.fault.kind = .parse ∨ fault.fault.kind = .invalidRequest)

/-- What is left of a stream after a number of readings. -/
def unread (readings : Nat) (stream : List UInt8) : List UInt8 :=
  (fun left => (Reading.ofStream left).rest)^[readings] stream

theorem Reading.decided_iff {r : Reading} : r.Decided ↔ r.isLast = false := by
  obtain ⟨outcome, rest⟩ := r
  match outcome with
  | .ok none => simp [Decided, isLast]
  | .ok (some m) => simp [Decided, isLast]
  | .error fault =>
    simp only [Decided, isLast, reduceCtorEq, exists_false, false_or, decide_eq_false_iff_not,
      Except.error.injEq, exists_eq_left']
    constructor
    · intro h hio
      simp [hio] at h
    · intro hio
      exact fault.kind_cases.resolve_left hio

/-! ## Header blocks -/

/-- The block has come to its end, with a length or with a header that is refused. -/
def Settled (outcome : Except ReadFault (Option Nat)) : Prop :=
  (∃ length, outcome = .ok (some length)) ∨ ∃ why, outcome = .error (.header why)

/-- The end of the stream settles nothing. -/
theorem Block.not_settled_atEnd (block : Block) : ¬ Settled block.atEnd := by
  unfold atEnd
  split <;> simp [Settled]

/-- If a block that is settled begins with a new line, it takes that line at least. -/
theorem readBlock_snd_ne {block : Block} {stream : List UInt8}
    (h : Settled (readBlock [] block stream).1) : (readBlock [] block stream).2 ≠ stream := by
  intro hsame
  cases stream with
  | nil => exact block.not_settled_atEnd h
  | cons byte rest =>
    have hle := (readBlock_cons_suffix [] block byte rest).length_le
    rw [hsame, List.length_cons] at hle
    omega

/-- A block whose lines are whole is the same block with other bytes behind it. -/
theorem readBlock_append {line : List UInt8} {block : Block} {a : List UInt8}
    (hsettled : Settled (readBlock line block a).1)
    (hwhole : ∃ headers, a = headers ++ lineFeed :: (readBlock line block a).2) (b : List UInt8) :
    readBlock line block (a ++ b) =
      ((readBlock line block a).1, (readBlock line block a).2 ++ b) := by
  induction a generalizing line block with
  | nil =>
    obtain ⟨headers, hheaders⟩ := hwhole
    simp at hheaders
  | cons byte rest ih =>
    obtain ⟨headers, hheaders⟩ := hwhole
    rw [readBlock] at hsettled hheaders
    rw [List.cons_append, readBlock, readBlock]
    split at hsettled
    · next hfeed =>
      rw [if_pos hfeed] at hheaders
      rw [if_pos hfeed, if_pos hfeed]
      cases hline : block.addLine (byte :: line).reverse with
      | body length => rfl
      | fault why => rfl
      | more block' =>
        rw [hline] at hsettled hheaders
        -- The feed of this line is not the last one, because the block is not settled by it.
        cases headers with
        | nil => exact absurd (List.cons.inj hheaders).2.symm (readBlock_snd_ne hsettled)
        | cons first headers => exact ih hsettled ⟨headers, (List.cons.inj hheaders).2⟩
    · next hbyte =>
      rw [if_neg hbyte] at hheaders
      rw [if_neg hbyte, if_neg hbyte]
      cases headers with
      | nil => exact absurd (List.cons.inj hheaders).1 hbyte
      | cons first headers => exact ih hsettled ⟨headers, (List.cons.inj hheaders).2⟩

/-- Bytes are left behind a block only if its last line has its line feed. -/
theorem readBlock_whole (line : List UInt8) (block : Block) (stream : List UInt8) :
    (readBlock line block stream).2 = [] ∨
      ∃ headers, stream = headers ++ lineFeed :: (readBlock line block stream).2 := by
  induction stream generalizing line block with
  | nil =>
    left
    rw [readBlock]
    split
    · rfl
    · split <;> rfl
  | cons byte rest ih =>
    have hlater : ∀ {line : List UInt8} {block : Block}, (readBlock line block rest).2 = [] ∨
        ∃ headers, byte :: rest = headers ++ lineFeed :: (readBlock line block rest).2 := by
      intro line block
      rcases ih line block with hnil | ⟨headers, hheaders⟩
      · exact .inl hnil
      · refine .inr ⟨byte :: headers, ?_⟩
        rw [List.cons_append, ← hheaders]
    rw [readBlock]
    split
    · next hfeed =>
      split
      · exact hlater
      · exact .inr ⟨[], by rw [hfeed, List.nil_append]⟩
      · exact .inr ⟨[], by rw [hfeed, List.nil_append]⟩
    · exact hlater

/-- A line makes a block fail only for the headers or for the stream. -/
theorem Block.fault_of_addLine {block : Block} {line : List UInt8} {fault : ReadFault}
    (h : block.addLine line = .fault fault) :
    (∃ why, fault = .stream why) ∨ ∃ why, fault = .header why := by
  unfold addLine at h
  split at h
  · unfold addText at h
    split at h
    · split at h
      · split at h
        · cases h
        · cases h
          exact .inr ⟨_, rfl⟩
      · cases h
    · split at h
      · cases h
        exact .inr ⟨_, rfl⟩
      · cases h
      · cases h
  · cases h
    exact .inl ⟨_, rfl⟩

theorem Block.fault_of_atEnd {block : Block} {fault : ReadFault}
    (h : block.atEnd = .error fault) : fault = .stream .endInHeaders := by
  unfold atEnd at h
  split at h
  · exact (Except.error.inj h).symm
  · cases h

/-- A block fails only for its headers or for the stream. -/
theorem readBlock_error {line : List UInt8} {block : Block} {stream : List UInt8}
    {fault : ReadFault} (h : (readBlock line block stream).1 = .error fault) :
    (∃ why, fault = .stream why) ∨ ∃ why, fault = .header why := by
  induction stream generalizing line block with
  | nil =>
    rw [readBlock] at h
    split at h
    · exact .inl ⟨_, Block.fault_of_atEnd h⟩
    · split at h
      · exact .inl ⟨_, Block.fault_of_atEnd h⟩
      · cases h
      · next hline =>
        cases h
        exact Block.fault_of_addLine hline
  | cons byte rest ih =>
    rw [readBlock] at h
    split at h
    · split at h
      · exact ih h
      · cases h
      · next hline =>
        cases h
        exact Block.fault_of_addLine hline
    · exact ih h

/-! ## Readings -/

section Reading

variable {stream rest : List UInt8}

theorem Reading.isLast_of_stream {why : StreamFault}
    (h : readMessage stream = (.error (.stream why), rest)) :
    (ofStream stream).isLast = true := by
  simp only [ofStream, h]
  exact decide_eq_true (ReadFault.kind_eq_io_iff.2 ⟨why, rfl⟩)

/-- A reading is decided by a header that is refused, or by a body that the stream holds. -/
theorem Reading.Decided.cases (h : (ofStream stream).Decided) :
    (∃ why rest, readBlock [] {} stream = (.error (.header why), rest)) ∨
      ∃ length rest, readBlock [] {} stream = (.ok (some length), rest) ∧
        length ≤ rest.length := by
  rw [decided_iff, Bool.eq_false_iff] at h
  match hblock : readBlock [] {} stream with
  | (.error fault, rest) =>
    rcases readBlock_error (congrArg Prod.fst hblock) with ⟨why, rfl⟩ | ⟨why, rfl⟩
    · have hread : readMessage stream = (.error (.stream why), rest) := by
        simp only [readMessage, Frame.read, hblock]
      exact absurd (isLast_of_stream hread) h
    · exact .inl ⟨why, rest, rfl⟩
  | (.ok none, rest) =>
    have hread : readMessage stream = (.ok none, rest) := by
      simp only [readMessage, Frame.read, hblock]
    have hlast : (ofStream stream).isLast = true := by
      simp only [ofStream, hread]
      rfl
    exact absurd hlast h
  | (.ok (some length), rest) =>
    rcases Nat.lt_or_ge rest.length length with hlt | hle
    · exact absurd (isLast_of_stream (readMessage_of_cutOff hblock hlt)) h
    · exact .inr ⟨length, rest, rfl, hle⟩

/-- A reading that leaves something has read whole header lines. -/
theorem Reading.wholeHeaders_of_rest_ne_nil (h : (ofStream stream).rest ≠ []) :
    WholeHeaders stream := by
  refine (readBlock_whole [] {} stream).resolve_left fun hnil => h ?_
  have hsuffix := frameRead_suffix stream
  rw [hnil, ← readMessage_snd] at hsuffix
  exact List.suffix_nil.1 hsuffix

/-- More bytes behind a stream do not change a reading that is decided by whole header lines. -/
theorem Reading.ofStream_append (h : (ofStream stream).Decided) (hwhole : WholeHeaders stream)
    (later : List UInt8) :
    ofStream (stream ++ later) = ⟨(ofStream stream).outcome, (ofStream stream).rest ++ later⟩ := by
  obtain ⟨why, rest, hblock⟩ | ⟨length, rest, hblock, hbody⟩ := h.cases
  · have hsettled : Settled (readBlock [] {} stream).1 := .inr ⟨why, by rw [hblock]⟩
    have hmore := readBlock_append hsettled hwhole later
    rw [hblock] at hmore
    simp only [ofStream, readMessage_of_header hblock, readMessage_of_header hmore]
  · have hsettled : Settled (readBlock [] {} stream).1 := .inl ⟨length, by rw [hblock]⟩
    have hmore := readBlock_append hsettled hwhole later
    rw [hblock] at hmore
    have hbody' : length ≤ (rest ++ later).length := by
      rw [List.length_append]
      omega
    simp only [ofStream, readMessage_of_body hblock hbody, readMessage_of_body hmore hbody',
      List.take_append_of_le_length hbody, List.drop_append_of_le_length hbody]

end Reading

/-! ## Progress -/

/-- Every reading that is not the last one takes a byte at least. -/
theorem Reading.exists_taken {stream : List UInt8} (h : (ofStream stream).isLast = false) :
    ∃ taken, taken ≠ [] ∧ stream = taken ++ (ofStream stream).rest := by
  cases stream with
  | nil => cases h
  | cons byte rest =>
    obtain ⟨taken, htaken⟩ := readMessage_cons_suffix byte rest
    exact ⟨byte :: taken, List.cons_ne_nil _ _, congrArg (byte :: ·) htaken.symm⟩

/-- The last reading comes after as many others as there are bytes, or sooner. -/
theorem exists_isLast_unread (stream : List UInt8) :
    ∃ n ≤ stream.length, (Reading.ofStream (unread n stream)).isLast = true ∧
      ∀ m < n, (Reading.ofStream (unread m stream)).isLast = false := by
  induction hn : stream.length using Nat.strongRecOn generalizing stream with
  | ind length ih =>
    cases h : (Reading.ofStream stream).isLast with
    | true => exact ⟨0, Nat.zero_le _, h, fun m hm => absurd hm (Nat.not_lt_zero m)⟩
    | false =>
      have hlt := Reading.length_rest_lt h
      obtain ⟨n, hle, hlast, hbefore⟩ := ih _ (hn ▸ hlt) (Reading.ofStream stream).rest rfl
      refine ⟨n + 1, by omega, hlast, fun m hm => ?_⟩
      cases m with
      | zero => exact h
      | succ m => exact hbefore m (Nat.lt_of_succ_lt_succ hm)

/-- A reading that is decided by whole header lines does not depend on the bytes that come later:
they change nothing of it, and are left behind what it leaves. Every reading but the last one takes
a byte at least, so the last one comes after as many others as there are bytes, or sooner. -/
theorem Reading.ofStream_causal :
    (∀ stream later, (ofStream stream).Decided → WholeHeaders stream →
      ofStream (stream ++ later) = ⟨(ofStream stream).outcome, (ofStream stream).rest ++ later⟩) ∧
    (∀ stream, (ofStream stream).isLast = false →
      ∃ taken, taken ≠ [] ∧ stream = taken ++ (ofStream stream).rest) ∧
    ∀ stream, ∃ n ≤ stream.length, (ofStream (unread n stream)).isLast = true ∧
      ∀ m < n, (ofStream (unread m stream)).isLast = false :=
  ⟨fun _ later h hwhole => ofStream_append h hwhole later, fun _ h => exists_taken h,
    exists_isLast_unread⟩

/-- A frame in an untidy layout, whose body is no message, and the beginning of another frame. -/
theorem Reading.ofStream_causal_untidy :
    let frame := (Layout.untidy (Utf8.encode "[]") rfl).bytes
    (ofStream (frame ++ [67])).Decided ∧ WholeHeaders (frame ++ [67]) ∧
      ofStream (frame ++ [67] ++ [111]) = ⟨.error (.content .shapeless), [67] ++ [111]⟩ ∧
      (∃ taken, taken ≠ [] ∧ frame ++ [67] = taken ++ (ofStream (frame ++ [67])).rest) := by
  intro frame
  have hreading : ofStream (frame ++ [67]) = ⟨.error (.content .shapeless), [67]⟩ := by
    have hbody : Message.ofBody (Utf8.encode "[]") = .error (.content .shapeless) := by
      have hshape : Message.ofText "[]" = .error .shapeless := by rfl
      rw [Message.ofBody_encode, hshape]
      rfl
    rw [ofStream, Layout.readMessage_bytes]
    exact congrArg (fun outcome => Reading.mk (Except.map some outcome) [67]) hbody
  have hdecided : (ofStream (frame ++ [67])).Decided := by
    rw [hreading]
    exact .inr ⟨_, rfl, .inr rfl⟩
  have hwhole : WholeHeaders (frame ++ [67]) := by
    refine wholeHeaders_of_rest_ne_nil ?_
    rw [hreading]
    exact List.cons_ne_nil _ _
  obtain ⟨hlater, htakes, -⟩ := ofStream_causal
  refine ⟨hdecided, hwhole, ?_, htakes _ (decided_iff.1 hdecided)⟩
  rw [hlater _ [111] hdecided hwhole, hreading]

/-- A blank line that is cut off ends the headers, and with one more byte it is another header. -/
example :
    (Reading.ofStream (Utf8.encode "X:\n ")).isLast = false ∧
      (Reading.ofStream (Utf8.encode "X:\n y")).isLast = true := by
  decide +kernel

end ScriptAssist.Rpc
