import ScriptAssist.Proofs.Rpc.RoundTrip
import ScriptAssist.Proofs.Server.Step
import ScriptAssist.Server.Run

/-!
# Sessions

A run of the server against the plain account of it: the stream is read by one call after another
up to the reading that ends the session, and each reading in turn is put to the server. `Session`
lists the readings, `hear` says what the server does about one of them, and the main statement is
that a run into a sink that never fills up does the same and nothing else (`run_eq_hearAll`).
-/

namespace ScriptAssist

open Json Rpc

/-! ## What a reading means -/

namespace Rpc.Reading

/-- Whether the client ends the session. -/
def isExit (r : Reading) : Bool :=
  match r.outcome with
  | .ok (some m) => m.isExit
  | _ => false

/-- Whether nothing is read any more. -/
def ends (r : Reading) : Bool :=
  r.isLast || r.isExit

/-- The ids of the answers that are due: the id of a request, and null for a frame that holds no
message. -/
def awaited (r : Reading) : List Value :=
  match r.outcome with
  | .ok (some m) => m.awaited
  | .ok none => []
  | .error fault => if fault.fault.kind = .io then [] else [.null]

/-- The ids that are given in answer in it. -/
def answers (r : Reading) : List Value :=
  match r.outcome with
  | .ok (some m) => m.answers
  | _ => []

/-- What a run comes to that ends here. -/
def result (r : Reading) : Except RunFault Unit :=
  match r.outcome with
  | .error (.stream why) => .error (.read why)
  | _ => .ok ()

end Rpc.Reading

theorem Rpc.flatMap_answers_readingsOf (ms : List Message) :
    (readingsOf ms).flatMap Reading.answers = ms.flatMap Message.answers := by
  induction ms with
  | nil => rfl
  | cons m ms ih =>
    have hfirst : m.settled.answers = m.answers := by cases m <;> rfl
    rw [readingsOf, List.flatMap_cons, ih, List.flatMap_cons, ← hfirst]
    rfl

/-- The readings of a session: those before the last one, and the last one, which ends it. -/
inductive Session : (stream : List UInt8) → List Reading → Reading → Prop
  | last {stream : List UInt8} (hends : (Reading.ofStream stream).ends = true) :
      Session stream [] (.ofStream stream)
  | more {stream : List UInt8} {before : List Reading} {last : Reading}
      (hgoes : (Reading.ofStream stream).ends = false)
      (hrest : Session (Reading.ofStream stream).rest before last) :
      Session stream (.ofStream stream :: before) last

/-- Every stream makes a session, since no reading but the last leaves all of it. -/
theorem exists_session (stream : List UInt8) : ∃ before last, Session stream before last := by
  induction hn : stream.length using Nat.strongRecOn generalizing stream with
  | ind n ih =>
    cases hends : (Reading.ofStream stream).ends with
    | true => exact ⟨[], _, .last hends⟩
    | false =>
      have hlt := Reading.length_rest_lt (Bool.or_eq_false_iff.1 hends).1
      obtain ⟨before, last, hrest⟩ := ih _ (hn ▸ hlt) _ rfl
      exact ⟨_ :: before, last, .more hends hrest⟩

/-- A stream makes no other session. -/
theorem Session.unique {stream : List UInt8} {before before' : List Reading} {last last' : Reading}
    (h : Session stream before last) (h' : Session stream before' last') :
    before = before' ∧ last = last' := by
  induction h generalizing before' with
  | last hends =>
    cases h' with
    | last => exact ⟨rfl, rfl⟩
    | more hgoes => exact (nomatch hends.symm.trans hgoes)
  | more hgoes _ ih =>
    cases h' with
    | last hends => exact (nomatch hends.symm.trans hgoes)
    | more _ hrest =>
      obtain ⟨hbefore, hlast⟩ := ih hrest
      exact ⟨congrArg _ hbefore, hlast⟩

/-- The session of a client that writes messages one after another, and does not end it. -/
theorem session_frames {ms : List Message} (h : ∀ m ∈ ms, m.Sendable)
    (hexit : ∀ m ∈ ms, m.settled.isExit = false) :
    Session (ms.flatMap Message.frame) (readingsOf ms) ⟨.ok none, []⟩ := by
  induction ms with
  | nil => exact .last rfl
  | cons m ms ih =>
    obtain ⟨hm, hms⟩ := List.forall_mem_cons.1 h
    obtain ⟨hgoes, hgoesOn⟩ := List.forall_mem_cons.1 hexit
    have hfirst : Reading.ofStream (m.frame ++ ms.flatMap Message.frame) =
        ⟨.ok (some m.settled), ms.flatMap Message.frame⟩ :=
      Reading.ofStream_of_readings (hm.readings_frame _)
    rw [List.flatMap_cons, readingsOf, ← hfirst]
    refine .more ?_ ?_
    · rw [hfirst]
      exact hgoes
    · rw [hfirst]
      exact ih hms hgoesOn

namespace Server

/-- What the server does about a reading, and what it sends. -/
def hear (s : Server) (r : Reading) : Server × List Message :=
  match r.outcome with
  | .ok (some m) => ((s.handle m).1.drain.1, (s.handle m).2.toList ++ (s.handle m).1.drain.2)
  | .ok none => (s, [])
  | .error fault =>
    if fault.fault.kind = .io then (s, []) else (s, [.response (.failure .null fault.fault)])

/-- What it does about one reading after another, and what it sends for each. -/
def hearAll (s : Server) : List Reading → Server × List (List Message)
  | [] => (s, [])
  | r :: rest => (((s.hear r).1.hearAll rest).1, (s.hear r).2 :: ((s.hear r).1.hearAll rest).2)

/-! ## One reading -/

/-- At the last reading a run stops, and there is nothing to be done about it. -/
theorem turn_of_isLast {r : Reading} (h : r.isLast = true) (s : Server) :
    s.turn r.outcome = .stop r.result ∧ s.hear r = (s, []) := by
  obtain ⟨outcome, rest⟩ := r
  match outcome with
  | .ok none => exact ⟨rfl, rfl⟩
  | .ok (some m) => cases h
  | .error fault =>
    have hio : fault.fault.kind = .io := of_decide_eq_true h
    obtain ⟨why, rfl⟩ := ReadFault.kind_eq_io_iff.1 hio
    exact ⟨rfl, if_pos hio⟩

/-- At any other reading a run does what is to be done about it. -/
theorem exists_turn_eq_send {r : Reading} (h : r.isLast = false) (s : Server) :
    ∃ handled reply? waiting, s.turn r.outcome = .send handled reply? ((s.hear r).1, waiting) ∧
      (s.hear r).2 = reply?.toList ++ waiting ∧ r.result = .ok () := by
  obtain ⟨outcome, rest⟩ := r
  match outcome with
  | .ok none => cases h
  | .ok (some m) => exact ⟨_, _, _, rfl, rfl, rfl⟩
  | .error fault =>
    have hio : ¬ fault.fault.kind = .io := of_decide_eq_false h
    have hhear : s.hear ⟨.error fault, rest⟩ = (s, [.response (.failure .null fault.fault)]) :=
      if_neg hio
    rw [hhear]
    -- An input fault would have been the last reading; the others all take the same way.
    cases fault with
    | stream why => exact absurd (ReadFault.kind_eq_io_iff.2 ⟨why, rfl⟩) hio
    | header why => exact ⟨s, some _, [], rfl, rfl, rfl⟩
    | notText why => exact ⟨s, some _, [], rfl, rfl, rfl⟩
    | content why => exact ⟨s, some _, [], rfl, rfl, rfl⟩

theorem phase_hear_eq_shutDown_iff (s : Server) (r : Reading) :
    (s.hear r).1.phase = .shutDown ↔ r.isExit = true ∨ s.phase = .shutDown := by
  obtain ⟨outcome, rest⟩ := r
  match outcome with
  | .ok none => simp [hear, Reading.isExit]
  | .ok (some m) => exact (step_handle s m).phase_eq_shutDown_iff
  | .error fault =>
    by_cases hio : fault.fault.kind = .io <;> simp [hear, Reading.isExit, hio]

/-- Nothing waits once a reading has been dealt with. -/
theorem outbox_hear {s : Server} (h : s.outbox = []) (r : Reading) : (s.hear r).1.outbox = [] := by
  obtain ⟨outcome, rest⟩ := r
  match outcome with
  | .ok none => exact h
  | .ok (some m) => rfl
  | .error fault =>
    by_cases hio : fault.fault.kind = .io <;> simpa [hear, hio] using h

/-- The answers that are due are given, and no others. -/
theorem answers_hear {s : Server} (h : s.outbox = []) (r : Reading) :
    (s.hear r).2.flatMap Message.answers = r.awaited := by
  obtain ⟨outcome, rest⟩ := r
  match outcome with
  | .ok none => rfl
  | .ok (some m) =>
    -- What waits to be sent is never an answer, so the reply is the only one.
    have hwaiting : (s.handle m).1.outbox.flatMap Message.answers = [] := by
      rw [(step_handle s m).answers_outbox, h]
      rfl
    show ((s.handle m).2.toList ++ (s.handle m).1.outbox).flatMap Message.answers = m.awaited
    rw [List.flatMap_append, handle_reply, hwaiting, List.append_nil]
  | .error fault =>
    by_cases hio : fault.fault.kind = .io <;> simp [hear, Reading.awaited, hio, Message.answers,
      Response.failure]

/-! ## A whole session -/

theorem outbox_hearAll {s : Server} (h : s.outbox = []) (rs : List Reading) :
    (s.hearAll rs).1.outbox = [] := by
  induction rs generalizing s with
  | nil => exact h
  | cons r rs ih => exact ih (outbox_hear h r)

theorem answers_hearAll {s : Server} (h : s.outbox = []) (rs : List Reading) :
    (s.hearAll rs).2.map (·.flatMap Message.answers) = rs.map Reading.awaited := by
  induction rs generalizing s with
  | nil => rfl
  | cons r rs ih =>
    show (s.hear r).2.flatMap Message.answers :: _ = r.awaited :: _
    rw [answers_hear h r, ih (outbox_hear h r)]

/-- What a run is left with that has gone through the readings of a session. -/
def leave (s : Server) (written : List UInt8) (rs : List Reading) (last : Reading) : Run where
  server := (s.hearAll rs).1
  sink := ⟨written ++ (s.hearAll rs).2.flatten.flatMap Message.frame, none⟩
  unread := last.rest
  result := last.result

theorem runFor_succ (turns : Nat) (s : Server) (sink : Sink) (stream : List UInt8) :
    runFor (turns + 1) s sink stream =
      match s.turn (Reading.ofStream stream).outcome with
      | .stop result => ⟨s, sink, (Reading.ofStream stream).rest, result⟩
      | .send handled reply? (next, waiting) =>
        match sink.write (reply?.toList.flatMap Message.frame) with
        | (sink, .error fault) =>
          ⟨handled, sink, (Reading.ofStream stream).rest, .error (.write fault)⟩
        | (sink, .ok ()) =>
          match sink.write (waiting.flatMap Message.frame) with
          | (sink, .error fault) =>
            ⟨next, sink, (Reading.ofStream stream).rest, .error (.write fault)⟩
          | (sink, .ok ()) =>
            if next.phase = .shutDown then ⟨next, sink, (Reading.ofStream stream).rest, .ok ()⟩
            else runFor turns next sink (Reading.ofStream stream).rest := by
  have hstep := runFor.eq_2 s sink stream turns
  simp only [Sink.send_eq_write] at hstep
  exact hstep

section Turns

variable {s handled next : Server} {reply? : Option Message} {waiting : List Message}
  {sink sink' : Sink} {stream : List UInt8}

theorem runFor_succ_of_stop {result : Except RunFault Unit}
    (h : s.turn (Reading.ofStream stream).outcome = .stop result) (turns : Nat) (sink : Sink) :
    runFor (turns + 1) s sink stream = ⟨s, sink, (Reading.ofStream stream).rest, result⟩ := by
  rw [runFor_succ, h]

/-- What is sent in a turn is written as if it was sent at once. -/
theorem runFor_succ_of_send
    (h : s.turn (Reading.ofStream stream).outcome = .send handled reply? (next, waiting))
    (hwrite : sink.write ((reply?.toList ++ waiting).flatMap Message.frame) = (sink', .ok ()))
    (turns : Nat) :
    runFor (turns + 1) s sink stream =
      if next.phase = .shutDown then ⟨next, sink', (Reading.ofStream stream).rest, .ok ()⟩
      else runFor turns next sink' (Reading.ofStream stream).rest := by
  rw [List.flatMap_append, Sink.write_append] at hwrite
  rw [runFor_succ, h]
  dsimp only
  generalize sink.write (reply?.toList.flatMap Message.frame) = replied at hwrite ⊢
  obtain ⟨after, outcome⟩ := replied
  cases outcome with
  | error fault => cases hwrite
  | ok _ =>
    dsimp only at hwrite ⊢
    rw [hwrite]

/-- If it is not written in full, what waits has been let go of only if the reply was. -/
theorem runFor_succ_of_broken {fault : WriteFault}
    (h : s.turn (Reading.ofStream stream).outcome = .send handled reply? (next, waiting))
    (hwrite : sink.write ((reply?.toList ++ waiting).flatMap Message.frame) =
      (sink', .error fault)) (turns : Nat) :
    runFor (turns + 1) s sink stream =
      { server :=
          if (sink.write (reply?.toList.flatMap Message.frame)).2.isOk then next else handled
        sink := sink'
        unread := (Reading.ofStream stream).rest
        result := .error (.write fault) } := by
  rw [List.flatMap_append, Sink.write_append] at hwrite
  rw [runFor_succ, h]
  dsimp only
  generalize sink.write (reply?.toList.flatMap Message.frame) = replied at hwrite ⊢
  obtain ⟨after, outcome⟩ := replied
  cases outcome with
  | error fault =>
    cases hwrite
    rfl
  | ok _ =>
    dsimp only at hwrite ⊢
    rw [hwrite]
    rfl

/-- A sink that never fills up takes all that is to be sent about a reading. -/
theorem runFor_succ_of_room (h : (Reading.ofStream stream).isLast = false) (turns : Nat)
    (s : Server) (written : List UInt8) :
    let heard := s.hear (.ofStream stream)
    let sink : Sink := ⟨written ++ heard.2.flatMap Message.frame, none⟩
    (Reading.ofStream stream).result = .ok () ∧
      runFor (turns + 1) s ⟨written, none⟩ stream =
        if heard.1.phase = .shutDown then ⟨heard.1, sink, (Reading.ofStream stream).rest, .ok ()⟩
        else runFor turns heard.1 sink (Reading.ofStream stream).rest := by
  obtain ⟨handled, reply?, waiting, hturn, hsent, hresult⟩ := exists_turn_eq_send h s
  dsimp only
  rw [hsent]
  exact ⟨hresult, runFor_succ_of_send hturn rfl turns⟩

end Turns

theorem runFor_eq_leave {stream : List UInt8} {before : List Reading} {last : Reading}
    (h : Session stream before last) {s : Server} (hphase : s.phase ≠ .shutDown)
    (written : List UInt8) {turns : Nat} (hturns : stream.length < turns) :
    runFor turns s ⟨written, none⟩ stream = s.leave written (before ++ [last]) last := by
  induction h generalizing s written turns with
  | @last stream hends =>
    obtain ⟨turns, rfl⟩ := Nat.exists_eq_succ_of_ne_zero (Nat.ne_zero_of_lt hturns)
    -- The session ends because nothing can be read, or because the client has ended it.
    cases hlast : (Reading.ofStream stream).isLast with
    | true =>
      obtain ⟨hturn, hhear⟩ := turn_of_isLast hlast s
      rw [runFor_succ_of_stop hturn]
      simp [leave, hearAll, hhear]
    | false =>
      have hexit : (Reading.ofStream stream).isExit = true := by
        simpa [Reading.ends, hlast] using hends
      have hended := (phase_hear_eq_shutDown_iff s (.ofStream stream)).2 (.inl hexit)
      obtain ⟨hresult, hrun⟩ := runFor_succ_of_room hlast turns s written
      rw [hrun, if_pos hended]
      simp [leave, hearAll, hresult]
  | @more stream before last hgoes hrest ih =>
    obtain ⟨turns, rfl⟩ := Nat.exists_eq_succ_of_ne_zero (Nat.ne_zero_of_lt hturns)
    obtain ⟨hlast, hexit⟩ := Bool.or_eq_false_iff.1 hgoes
    -- The client has not ended the session, so the server goes on with what is left to read.
    have hserves : (s.hear (.ofStream stream)).1.phase ≠ .shutDown := by
      rw [ne_eq, phase_hear_eq_shutDown_iff, hexit]
      simpa using hphase
    have hlength := Reading.length_rest_lt hlast
    obtain ⟨-, hrun⟩ := runFor_succ_of_room hlast turns s written
    rw [hrun, if_neg hserves, ih hserves _ (by omega)]
    simp [leave, hearAll]

theorem run_eq_leave {settings : Settings} {input : List UInt8} {before : List Reading}
    {last : Reading} (h : Session input before last) (written : List UInt8) :
    run { settings } ⟨written, none⟩ input = leave { settings } written (before ++ [last]) last :=
  runFor_eq_leave h Phase.noConfusion written (Nat.lt_succ_self _)

theorem written_run_eq_frames (settings : Settings) {input : List UInt8} {before : List Reading}
    {last : Reading} (h : Session input before last) :
    (run { settings } {} input).sink.written =
      (hearAll { settings } (before ++ [last])).2.flatten.flatMap Message.frame :=
  congrArg (fun outcome => outcome.sink.written) (run_eq_leave h [])

/-- A run into a sink that never fills up comes to an end, and does what its session says: it
writes what the server sends for each reading, in order, up to the reading that ends the session,
and leaves what is behind that one. For each request it sends one response with the id of the
request, for each frame without a message one with the id null, and no others; nothing is left
waiting. Each message is written behind a header with the length of its text. If all messages can be
sent, they are read back from the bytes that are written, and so are the answers that were due. -/
theorem run_eq_hearAll (settings : Settings) (written input : List UInt8) :
    ∃ before last, Session input before last ∧
      let s : Server := { settings }
      let rs := before ++ [last]
      let sent := (s.hearAll rs).2.flatten
      let bytes := sent.flatMap fun m =>
        let text := m.toValue.render
        Utf8.encode s!"Content-Length: {text.utf8ByteSize}\r\n\r\n{text}"
      run s ⟨written, none⟩ input =
        { server := (s.hearAll rs).1
          sink := ⟨written ++ bytes, none⟩
          unread := last.rest
          result := last.result } ∧
      (∀ extra, runFor (input.length + 1 + extra) s ⟨written, none⟩ input =
        run s ⟨written, none⟩ input) ∧
      (s.hearAll rs).1.outbox = [] ∧
      (s.hearAll rs).2.map (·.flatMap Message.answers) = rs.map Reading.awaited ∧
      ((∀ m ∈ sent, m.Sendable) →
        (readings bytes).map Reading.outcome =
          sent.map (fun m => .ok (some m.settled)) ++ [.ok none] ∧
        (readings bytes).getLast?.map Reading.rest = some [] ∧
        (readings bytes).flatMap Reading.answers = rs.flatMap Reading.awaited) := by
  obtain ⟨before, last, hsession⟩ := exists_session input
  have hphase : ({ settings } : Server).phase ≠ .shutDown := by
    intro h
    cases h
  have hrun : ∀ extra, runFor (input.length + 1 + extra) { settings } ⟨written, none⟩ input =
      leave { settings } written (before ++ [last]) last :=
    fun extra => runFor_eq_leave hsession hphase written (by omega)
  have hanswers := answers_hearAll (s := { settings }) rfl (before ++ [last])
  refine ⟨before, last, hsession, ?_⟩
  intro s rs sent bytes
  have hbytes : bytes = sent.flatMap Message.frame :=
    List.flatMap_congr fun m _ => m.frame_eq.symm
  rw [hbytes]
  refine ⟨hrun 0, fun extra => (hrun extra).trans (hrun 0).symm, outbox_hearAll rfl _, hanswers,
    fun hsendable => ?_⟩
  rw [readings_frames hsendable]
  refine ⟨?_, ?_, ?_⟩
  · rw [List.map_append, map_outcome_readingsOf]
    rfl
  · rw [List.getLast?_concat]
    rfl
  · have hlast : Reading.answers ⟨.ok none, []⟩ = [] := rfl
    rw [List.flatMap_append, flatMap_answers_readingsOf, List.flatMap_singleton, hlast,
      List.append_nil, List.flatMap_def, List.flatMap_def, List.map_flatten, List.flatten_flatten,
      List.map_map]
    exact congrArg List.flatten hanswers

end Server

namespace Sample

/-- A client asks for the end of the session where it should announce it. -/
def stray : Request where
  id := .array [.null]
  method := "exit"

/-- It announces the end of the session. -/
def goodbye : Notification where
  method := "exit"

/-- It says one byte more than it should. -/
def straying : List UInt8 :=
  (Message.request stray).frame ++ ((Message.notification goodbye).frame ++ [0x43])

/-- What it is told. -/
def correction : Message :=
  .response (.failure (.array [.null]) ⟨.methodNotFound, "exit"⟩)

/-- The text of that. -/
def correctionText : String :=
  r#"{"jsonrpc":"2.0","id":[null],"error":{"code":-32601,"message":"Method not found: exit"}}"#

theorem sendable_stray : (Message.request stray).Sendable := by
  refine .of_call rfl (List.forall_mem_singleton.2 ⟨rfl, ?_⟩) (by decide +kernel)
  exact .array (List.forall_mem_singleton.2 .null)

theorem sendable_goodbye : (Message.notification goodbye).Sendable :=
  .of_call rfl (List.forall_mem_nil _) (by decide +kernel)

theorem sendable_correction : correction.Sendable := by
  refine .of_failure ⟨rfl, ?_⟩ (by decide +kernel)
  exact .array (List.forall_mem_singleton.2 .null)

theorem session_straying :
    Session straying
      [⟨.ok (some (.request stray)), (Message.notification goodbye).frame ++ [0x43]⟩]
      ⟨.ok (some (.notification goodbye)), [0x43]⟩ := by
  have hfirst : Reading.ofStream straying =
      ⟨.ok (some (.request stray)), (Message.notification goodbye).frame ++ [0x43]⟩ :=
    Reading.ofStream_of_readings (sendable_stray.readings_frame _)
  have hlast : Reading.ofStream ((Message.notification goodbye).frame ++ [0x43]) =
      ⟨.ok (some (.notification goodbye)), [0x43]⟩ :=
    Reading.ofStream_of_readings (sendable_goodbye.readings_frame _)
  have hrest : Session ((Message.notification goodbye).frame ++ [0x43]) []
      ⟨.ok (some (.notification goodbye)), [0x43]⟩ :=
    hlast ▸ .last (hlast ▸ rfl)
  rw [← hfirst]
  exact .more (hfirst ▸ rfl) (hfirst ▸ hrest)

end Sample

open Sample in
/-- The request is answered with its own id, the announcement is not, and what comes behind it is
not read. The answer is read back from what was written. -/
theorem Server.run_eq_hearAll_straying :
    let outcome := run { settings := {} } {} straying
    outcome.sink.written = Utf8.encode ("Content-Length: 88\r\n\r\n" ++ correctionText) ∧
    outcome.unread = [0x43] ∧
    (∀ m ∈ [correction], m.Sendable) ∧
    (readings outcome.sink.written).flatMap Reading.answers = [.array [.null]] := by
  obtain ⟨before, last, hsession, hrun, -, -, -, hread⟩ := run_eq_hearAll {} [] straying
  obtain ⟨rfl, rfl⟩ := hsession.unique session_straying
  have hsent : (hearAll { settings := {} }
      [⟨.ok (some (.request stray)), (Message.notification goodbye).frame ++ [0x43]⟩,
        ⟨.ok (some (.notification goodbye)), [0x43]⟩]).2.flatten = [correction] := by
    rfl
  have hsendable : ∀ m ∈ [correction], m.Sendable :=
    List.forall_mem_singleton.2 sendable_correction
  dsimp only [List.cons_append, List.nil_append] at hrun hread ⊢
  rw [hsent] at hrun hread
  rw [hrun]
  refine ⟨?_, rfl, hsendable, (hread hsendable).2.2⟩
  decide +kernel

end ScriptAssist
