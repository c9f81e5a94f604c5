import ScriptAssist.Proofs.Server.Session

/-!
# Short writes

A run whose sink has room for some bytes only, against the run whose sink never fills up. What a
server sends does not depend on what has been written, so the two go the same way until the sink is
full: the one run writes the first bytes of what the other one writes, and if there is room for all
of them, the two end alike (`run_short`).
-/

namespace ScriptAssist

open Json Rpc

namespace Rpc

/-- Bytes fit into a sink, or fill it up. -/
theorem Sink.write_cases (written bytes : List UInt8) (room : Nat) :
    bytes.length ≤ room ∧ Sink.write ⟨written, some room⟩ bytes =
        (⟨written ++ bytes, some (room - bytes.length)⟩, .ok ()) ∨
      room < bytes.length ∧ Sink.write ⟨written, some room⟩ bytes =
        (⟨written ++ bytes.take room, some 0⟩, .error {}) := by
  by_cases hfits : bytes.length ≤ room
  · refine .inl ⟨hfits, ?_⟩
    simp only [write, if_pos hfits, List.take_of_length_le hfits]
  · have hnone : room - bytes.length = 0 := by omega
    refine .inr ⟨Nat.lt_of_not_le hfits, ?_⟩
    simp only [write, if_neg hfits, hnone]

/-- The bytes of the frames of messages, one after another. They may break off within a frame. -/
inductive Breaks : List Message → List UInt8 → Prop
  | none (ms : List Message) : Breaks ms []
  | whole {m : Message} {ms : List Message} {bytes : List UInt8} (h : Breaks ms bytes) :
      Breaks (m :: ms) (m.frame ++ bytes)
  | part {m : Message} {bytes : List UInt8} (h : bytes <+: m.frame) (ms : List Message) :
      Breaks (m :: ms) bytes

theorem breaks_take (ms : List Message) (n : Nat) :
    Breaks ms ((ms.flatMap Message.frame).take n) := by
  induction ms generalizing n with
  | nil => simpa using Breaks.none []
  | cons m ms ih =>
    rw [List.flatMap_cons, List.take_append]
    by_cases h : m.frame.length ≤ n
    · rw [List.take_of_length_le h]
      exact .whole (ih (n - m.frame.length))
    · have hnone : n - m.frame.length = 0 := by omega
      rw [hnone, List.take_zero, List.append_nil]
      exact .part (List.take_prefix n m.frame) ms

end Rpc

namespace Server

/-! ## Two runs -/

/-- Whatever follows from a reading, it is no failed write. -/
theorem turn_ne_write {s : Server} {reading : Except ReadFault (Option Message)}
    {result : Except RunFault Unit} (h : s.turn reading = .stop result) (fault : WriteFault) :
    result ≠ .error (.write fault) := by
  unfold turn at h
  split at h <;> cases h <;> exact fun h => nomatch h

end Server

/-- What a run into a sink with room for some bytes (`short`) has in common with the run into a sink
that never fills up (`full`), which writes the given bytes behind those that have been written. -/
structure Run.Shortens (short full : Run) (written bytes : List UInt8) (room : Nat) : Prop where
  full_sink : full.sink = ⟨written ++ bytes, none⟩
  full_result : ∀ fault, full.result ≠ .error (.write fault)
  written_eq : short.sink.written = written ++ bytes.take room
  ends_alike : bytes.length ≤ room →
    short.result = full.result ∧ short.server = full.server ∧ short.unread = full.unread
  result_eq : room < bytes.length → short.result = .error (.write {})

namespace Run.Shortens

variable {short full : Run} {written now bytes : List UInt8} {room : Nat}

/-- What is written first has fitted into the sink. -/
theorem append (h : Shortens short full (written ++ now) bytes (room - now.length))
    (hfits : now.length ≤ room) : Shortens short full written (now ++ bytes) room where
  full_sink := by rw [h.full_sink, List.append_assoc]
  full_result := h.full_result
  written_eq := by
    rw [h.written_eq, List.take_append, List.take_of_length_le hfits, List.append_assoc]
  ends_alike hroom := h.ends_alike (by rw [List.length_append] at hroom; omega)
  result_eq hroom := h.result_eq (by rw [List.length_append] at hroom; omega)

/-- What is written first has not fitted into the sink, and so the run has been broken off. -/
theorem broken (h : Shortens short full (written ++ now) bytes (room - now.length))
    (hfull : room < now.length) (s : Server) (unread : List UInt8) :
    Shortens ⟨s, ⟨written ++ now.take room, some 0⟩, unread, .error (.write {})⟩ full written
      (now ++ bytes) room where
  full_sink := by rw [h.full_sink, List.append_assoc]
  full_result := h.full_result
  written_eq := by
    have hnone : room - now.length = 0 := by omega
    rw [List.take_append, hnone, List.take_zero, List.append_nil]
  ends_alike hroom := by
    rw [List.length_append] at hroom
    omega
  result_eq _ := rfl

end Run.Shortens

namespace Server

/-- Nothing more is written by a server that has ended. -/
theorem exists_shortens_onward {turns : Nat} {s : Server}
    (h : ∀ written stream room, ∃ bytes, Run.Shortens (runFor turns s ⟨written, some room⟩ stream)
      (runFor turns s ⟨written, none⟩ stream) written bytes room)
    (written stream : List UInt8) (room : Nat) :
    ∃ bytes, Run.Shortens
      (if s.phase = .shutDown then ⟨s, ⟨written, some room⟩, stream, .ok ()⟩
        else runFor turns s ⟨written, some room⟩ stream)
      (if s.phase = .shutDown then ⟨s, ⟨written, none⟩, stream, .ok ()⟩
        else runFor turns s ⟨written, none⟩ stream) written bytes room := by
  by_cases hended : s.phase = .shutDown
  · rw [if_pos hended, if_pos hended]
    exact ⟨[], by simp, nofun, by simp, fun _ => ⟨rfl, rfl, rfl⟩, nofun⟩
  · rw [if_neg hended, if_neg hended]
    exact h written stream room

/-- The two runs go the same way until the sink is full. -/
theorem exists_shortens (turns : Nat) (s : Server) (written stream : List UInt8) (room : Nat) :
    ∃ bytes, Run.Shortens (runFor turns s ⟨written, some room⟩ stream)
      (runFor turns s ⟨written, none⟩ stream) written bytes room := by
  induction turns generalizing s written stream room with
  | zero => exact ⟨[], by simp [runFor], nofun, by simp [runFor], fun _ => ⟨rfl, rfl, rfl⟩, nofun⟩
  | succ turns ih =>
    cases hturn : s.turn (Reading.ofStream stream).outcome with
    | stop result =>
      rw [runFor_succ_of_stop hturn, runFor_succ_of_stop hturn]
      exact ⟨[], by simp, turn_ne_write hturn, by simp, fun _ => ⟨rfl, rfl, rfl⟩, nofun⟩
    | send handled reply? following =>
      obtain ⟨next, waiting⟩ := following
      let now := (reply?.toList ++ waiting).flatMap Message.frame
      obtain ⟨bytes, h⟩ := exists_shortens_onward (ih next) (written ++ now)
        (Reading.ofStream stream).rest (room - now.length)
      have hall : Sink.write ⟨written, none⟩ now = (⟨written ++ now, none⟩, .ok ()) := rfl
      refine ⟨now ++ bytes, ?_⟩
      rw [runFor_succ_of_send hturn hall]
      rcases Sink.write_cases written now room with ⟨hfits, hwrite⟩ | ⟨hfull, hwrite⟩
      · rw [runFor_succ_of_send hturn hwrite]
        exact h.append hfits
      · rw [runFor_succ_of_broken hturn hwrite]
        exact h.broken hfull _ _

/-- A run into a sink with room for some bytes writes the first bytes of what the same run writes
into a sink that never fills up, as many as there is room for. It is broken off by a failed write
exactly if they do not all fit; otherwise the two end alike. What is written are the frames of the
messages of the session, in their order and each once, and only the last one may be incomplete. -/
theorem run_short (settings : Settings) (room : Nat) (input : List UInt8) :
    let full := run { settings } {} input
    let short := run { settings } { room? := some room } input
    short.sink.written = full.sink.written.take room ∧
      short.sink.written.length = min room full.sink.written.length ∧
      (short.result = .error (.write {}) ↔ room < full.sink.written.length) ∧
      (full.sink.written.length ≤ room →
        short.result = full.result ∧ short.server = full.server ∧ short.unread = full.unread ∧
          short.sink.written = full.sink.written) ∧
      ∃ before last, Session input before last ∧
        let sent := (hearAll { settings } (before ++ [last])).2.flatten
        full.sink.written = sent.flatMap Message.frame ∧ Breaks sent short.sink.written := by
  intro full short
  obtain ⟨bytes, h⟩ := exists_shortens (input.length + 1) { settings } [] input room
  have hfull : full.sink.written = bytes := congrArg Sink.written h.full_sink
  have hshort : short.sink.written = full.sink.written.take room := by
    rw [hfull]
    exact h.written_eq
  refine ⟨hshort, ?_, ?_, ?_, ?_⟩
  · rw [hshort, List.length_take]
  · rw [hfull]
    refine ⟨fun hfailed => Nat.lt_of_not_le fun hfits => ?_, h.result_eq⟩
    -- With room for all bytes the run would have ended like the other one.
    obtain ⟨hresult, -⟩ := h.ends_alike hfits
    exact h.full_result {} (hresult.symm.trans hfailed)
  · intro hfits
    obtain ⟨hresult, hserver, hunread⟩ := h.ends_alike (hfull ▸ hfits)
    exact ⟨hresult, hserver, hunread, hshort.trans (List.take_of_length_le hfits)⟩
  · obtain ⟨before, last, hsession⟩ := exists_session input
    have hsent : full.sink.written =
        (hearAll { settings } (before ++ [last])).2.flatten.flatMap Message.frame :=
      written_run_eq_frames settings hsession
    refine ⟨before, last, hsession, hsent, ?_⟩
    rw [hshort, hsent]
    exact breaks_take _ room

end Server

/-- A client asks to be served, confuses a request with a notification, and ends the session. -/
def Sample.hurried : List Message :=
  [.request { id := .int 1, method := "initialize" }, .request { id := .int 2, method := "exit" },
    .notification { method := "exit" }]

/-- The server has 425 bytes to tell it. With room for 400 the second answer is incomplete; with
room for 425 the run ends as it should. -/
theorem Server.run_short_hurried :
    let input := Sample.hurried.flatMap Message.frame
    (run { settings := {} } {} input).sink.written.length = 425 ∧
      (run { settings := {} } { room? := some 400 } input).sink.written.length = 400 ∧
      (run { settings := {} } { room? := some 400 } input).result = .error (.write {}) ∧
      (run { settings := {} } { room? := some 425 } input).result =
        (run { settings := {} } {} input).result := by
  have hlength : (run { settings := {} } {}
      (Sample.hurried.flatMap Message.frame)).sink.written.length = 425 := by
    decide +kernel
  have hbroken := run_short {} 400 (Sample.hurried.flatMap Message.frame)
  have hfitting := run_short {} 425 (Sample.hurried.flatMap Message.frame)
  dsimp only at hbroken hfitting
  rw [hlength] at hbroken hfitting
  obtain ⟨-, hshort, hfailed, -, -⟩ := hbroken
  obtain ⟨-, -, -, hfits, -⟩ := hfitting
  obtain ⟨hresult, -⟩ := hfits (Nat.le_refl 425)
  exact ⟨hlength, hshort, hfailed.2 (by decide), hresult⟩

end ScriptAssist
