import ScriptAssist.Program
import ScriptAssist.Proofs.Server.Lifecycle
import ScriptAssist.Proofs.Server.Session

/-!
# Clean exits

Editors tell a crash from a proper end by the exit code of the program. It is zero if the client
has done all that it has to do, in order, before it ends the session; whatever else it sends in
between does not matter. Of a session only its milestones count, and they have to contain those
that lie ahead of a new server.
-/

namespace ScriptAssist

open Json Rpc

/-! ## Milestones of a session -/

theorem Stage.exists_eq_due {st : Stage} (h : st ≠ .ended) : ∃ k : Milestone, st = k.due := by
  cases st with
  | new => exact ⟨.start, rfl⟩
  | met => exact ⟨.ready, rfl⟩
  | serving => exact ⟨.close, rfl⟩
  | closing => exact ⟨.exit, rfl⟩
  | ended => exact absurd rfl h

/-- Milestones lead to the stage before the end if, with the end behind them, all that lay ahead is
among them in its order. -/
theorem Stage.foldl_after_eq_closing_iff {st : Stage} {ks : List Milestone} (hst : st ≠ .ended)
    (hks : .exit ∉ ks) : ks.foldl after st = .closing ↔ st.ahead.Sublist (ks ++ [.exit]) := by
  induction ks generalizing st with
  | nil =>
    cases st with
    | ended => exact absurd rfl hst
    | _ => decide
  | cons k ks ih =>
    obtain ⟨hexit, hks⟩ := not_or.1 (mt List.mem_cons.2 hks)
    rw [List.foldl_cons, List.cons_append]
    by_cases hdue : st = k.due
    · have hreached : k.reached ≠ .ended := by
        cases k <;> simp [Milestone.reached] at hexit ⊢
      rw [hdue, after_due, ih hreached hks, ahead_due, List.cons_sublist_cons]
    · -- What is not due is not the first of the milestones ahead, and is passed over.
      obtain ⟨j, rfl⟩ := exists_eq_due hst
      have hne : j ≠ k := fun h => hdue (congrArg Milestone.due h)
      rw [after_of_ne hdue (Ne.symm hexit), ih hst hks, ahead_due]
      refine ⟨fun h => h.cons k, fun h => (List.sublist_cons_iff.1 h).resolve_right ?_⟩
      rintro ⟨_, htail, -⟩
      exact hne (List.cons.inj htail).1

theorem sublist_filterMap_iff_map {α β : Type} {f : α → Option β} {l : List α} {ks : List β} :
    ks.Sublist (l.filterMap f) ↔ ∃ l' : List α, l'.Sublist l ∧ l'.map f = ks.map some := by
  rw [List.sublist_filterMap_iff]
  constructor
  · rintro ⟨l', hl', rfl⟩
    -- Elements without a value are left out.
    refine ⟨l'.filter fun a => (f a).isSome, List.filter_sublist.trans hl', ?_⟩
    rw [List.map_filterMap_some_eq_filter_map_isSome, List.filter_map]
    rfl
  · rintro ⟨l', hl', hmap⟩
    refine ⟨l', hl', ?_⟩
    have hvalues := congrArg (List.filterMap id) hmap
    simpa [List.filterMap_map] using hvalues.symm

/-- The messages by which a client asks to be served, says that it is ready, and announces the end,
in this order among others. -/
def Prepares (ms : List Message) : Prop :=
  ∃ hello ready bye, [hello, ready, bye].Sublist ms ∧
    Marks hello .start ∧ Marks ready .ready ∧ Marks bye .close

/-- The first message that ends the session has been prepared for. -/
def EndsCleanly (ms : List Message) : Prop :=
  ∃ before exit after, ms = before ++ exit :: after ∧ Marks exit .exit ∧
    (∀ m ∈ before, ¬ Marks m .exit) ∧ Prepares before

theorem prepares_iff {ms : List Message} :
    Prepares ms ↔ List.Sublist [.start, .ready, .close] (ms.filterMap Message.milestone?) := by
  rw [sublist_filterMap_iff_map]
  constructor
  · rintro ⟨hello, ready, bye, hsub, hhello, hready, hbye⟩
    refine ⟨_, hsub, ?_⟩
    simp [milestone?_eq_some_iff, hhello, hready, hbye]
  · rintro ⟨chosen, hsub, hmap⟩
    obtain ⟨hello, chosen, rfl, hhello, hmap⟩ := List.map_eq_cons_iff.1 hmap
    obtain ⟨ready, chosen, rfl, hready, hmap⟩ := List.map_eq_cons_iff.1 hmap
    obtain ⟨bye, chosen, rfl, hbye, hmap⟩ := List.map_eq_cons_iff.1 hmap
    obtain rfl := List.map_eq_nil_iff.1 hmap
    rw [milestone?_eq_some_iff] at hhello hready hbye
    exact ⟨hello, ready, bye, hsub, hhello, hready, hbye⟩

/-- There is only one first message that ends the session. -/
theorem endsCleanly_concat_iff {before : List Message} {exit : Message} (hexit : Marks exit .exit)
    (hbefore : ∀ m ∈ before, ¬ Marks m .exit) :
    EndsCleanly (before ++ [exit]) ↔ Prepares before := by
  constructor
  · rintro ⟨before', exit', after, hms, hexit', -, hprepares⟩
    rcases List.append_eq_append_iff.1 hms with ⟨between, rfl, htail⟩ | ⟨between, rfl, htail⟩
    · cases between with
      | nil => simpa using hprepares
      | cons m between => simp at htail
    · cases between with
      | nil => simpa using hprepares
      | cons m between =>
        obtain ⟨rfl, -⟩ := List.cons.inj htail
        exact absurd hexit' (hbefore _ (by simp))
  · intro hprepares
    exact ⟨before, exit, [], rfl, hexit, hbefore, hprepares⟩

/-! ## What the server makes of it -/

/-- The message that has been read, if it is one. -/
def Rpc.Reading.message? (r : Reading) : Option Message :=
  match r.outcome with
  | .ok m? => m?
  | .error _ => none

theorem Rpc.Message.isExit_iff {m : Message} : m.isExit = true ↔ Marks m .exit := by
  constructor
  · intro h
    cases m with
    | notification n => exact .exit (of_decide_eq_true h)
    | request r => cases h
    | response r => cases h
  · intro h
    cases h with
    | exit h => exact decide_eq_true h

theorem Rpc.Reading.isExit_iff {r : Reading} :
    r.isExit = true ↔ ∃ m, r.message? = some m ∧ Marks m .exit := by
  unfold isExit message?
  match r.outcome with
  | .ok none => simp
  | .ok (some m) => simp [Message.isExit_iff]
  | .error fault => simp

namespace Server

theorem stage_hear (s : Server) (r : Reading) :
    (s.hear r).1.stage = (r.message?.bind Message.milestone?).elim s.stage s.stage.after := by
  unfold hear Reading.message?
  match r.outcome with
  | .ok none => rfl
  | .ok (some m) => exact (change_message s m).stage_eq
  | .error fault => by_cases hio : fault.fault.kind = .io <;> simp [hio]

theorem exitedCleanly_hear (s : Server) (r : Reading) :
    (s.hear r).1.exitedCleanly =
      if r.isExit then decide (s.stage = .closing) else s.exitedCleanly := by
  unfold hear Reading.isExit
  match r.outcome with
  | .ok none => rfl
  | .ok (some m) =>
    show (s.handle m).1.exitedCleanly = if m.isExit then _ else _
    simp only [Message.isExit_iff, ← milestone?_eq_some_iff]
    exact (change_message s m).exitedCleanly_eq
  | .error fault => by_cases hio : fault.fault.kind = .io <;> simp [hio]

theorem hearAll_concat (s : Server) (rs : List Reading) (r : Reading) :
    (s.hearAll (rs ++ [r])).1 = ((s.hearAll rs).1.hear r).1 := by
  induction rs generalizing s with
  | nil => rfl
  | cons r' rs ih => exact ih (s.hear r').1

theorem stage_hearAll (s : Server) (rs : List Reading) :
    (s.hearAll rs).1.stage =
      ((rs.filterMap Reading.message?).filterMap Message.milestone?).foldl Stage.after s.stage := by
  rw [List.filterMap_filterMap]
  induction rs generalizing s with
  | nil => rfl
  | cons r rs ih =>
    show ((s.hear r).1.hearAll rs).1.stage = _
    rw [ih, stage_hear]
    cases hk : r.message?.bind Message.milestone? <;> simp only [List.filterMap_cons, hk] <;> rfl

theorem exitedCleanly_hearAll (s : Server) {rs : List Reading} (h : ∀ r ∈ rs, r.isExit = false) :
    (s.hearAll rs).1.exitedCleanly = s.exitedCleanly := by
  induction rs generalizing s with
  | nil => rfl
  | cons r rs ih =>
    obtain ⟨hr, hrs⟩ := List.forall_mem_cons.1 h
    show ((s.hear r).1.hearAll rs).1.exitedCleanly = _
    rw [ih _ hrs, exitedCleanly_hear, hr]
    rfl

theorem phase_hearAll_eq_shutDown_iff (s : Server) (rs : List Reading) :
    (s.hearAll rs).1.phase = .shutDown ↔ (∃ r ∈ rs, r.isExit = true) ∨ s.phase = .shutDown := by
  induction rs generalizing s with
  | nil => simp [hearAll]
  | cons r rs ih =>
    show ((s.hear r).1.hearAll rs).1.phase = .shutDown ↔ _
    rw [ih, phase_hear_eq_shutDown_iff, or_left_comm, ← or_assoc]
    simp only [List.mem_cons, exists_eq_or_imp]

end Server

theorem exists_isExit_iff {rs : List Reading} :
    (∃ r ∈ rs, r.isExit = true) ↔ ∃ m ∈ rs.filterMap Reading.message?, Marks m .exit := by
  simp only [Reading.isExit_iff, List.mem_filterMap]
  constructor
  · rintro ⟨r, hr, m, hm, hmarks⟩
    exact ⟨m, ⟨r, hr, hm⟩, hmarks⟩
  · rintro ⟨m, ⟨r, hr, hm⟩, hmarks⟩
    exact ⟨r, hr, m, hm, hmarks⟩

theorem forall_not_marks_exit {rs : List Reading} (h : ∀ r ∈ rs, r.isExit = false) :
    ∀ m ∈ rs.filterMap Reading.message?, ¬ Marks m .exit := by
  intro m hm hexit
  obtain ⟨r, hr, hrexit⟩ := exists_isExit_iff.2 ⟨m, hm, hexit⟩
  rw [h r hr] at hrexit
  cases hrexit

/-- Only the last reading can end a session. -/
theorem Session.isExit_before {stream : List UInt8} {before : List Reading} {last : Reading}
    (h : Session stream before last) : ∀ r ∈ before, r.isExit = false := by
  induction h with
  | last hends => exact List.forall_mem_nil _
  | more hgoes hrest ih => exact List.forall_mem_cons.2 ⟨(Bool.or_eq_false_iff.1 hgoes).2, ih⟩

/-- Nothing ends cleanly that does not end. -/
theorem not_endsCleanly {ms : List Message} (h : ∀ m ∈ ms, ¬ Marks m .exit) : ¬ EndsCleanly ms := by
  rintro ⟨before, exit, after, rfl, hexit, -⟩
  exact h exit (by simp) hexit

namespace Server

variable {s : Server} {before : List Reading} {last : Reading}

/-- Only a client that ends the session can end it cleanly. -/
theorem isExit_of_exitedCleanly (hclean : s.exitedCleanly = false)
    (hbefore : ∀ r ∈ before, r.isExit = false)
    (h : (s.hearAll (before ++ [last])).1.exitedCleanly = true) : last.isExit = true := by
  cases hlast : last.isExit with
  | true => rfl
  | false =>
    rw [hearAll_concat, exitedCleanly_hear, hlast, if_neg Bool.false_ne_true,
      exitedCleanly_hearAll s hbefore, hclean] at h
    exact h

theorem exitedCleanly_hearAll_iff (hnew : s.stage = .new) (hclean : s.exitedCleanly = false)
    (hbefore : ∀ r ∈ before, r.isExit = false) :
    (s.hearAll (before ++ [last])).1.exitedCleanly = true ↔
      EndsCleanly ((before ++ [last]).filterMap Reading.message?) := by
  have hnone := forall_not_marks_exit hbefore
  cases hlast : last.isExit with
  | false =>
    -- Nobody has ended the session, so there is nothing to be clean or not.
    have hall : ∀ r ∈ before ++ [last], r.isExit = false := by
      rw [List.forall_mem_append, List.forall_mem_singleton]
      exact ⟨hbefore, hlast⟩
    constructor
    · intro h
      rw [isExit_of_exitedCleanly hclean hbefore h] at hlast
      cases hlast
    · intro h
      exact absurd h (not_endsCleanly (forall_not_marks_exit hall))
  | true =>
    obtain ⟨m, hm, hexit⟩ := Reading.isExit_iff.1 hlast
    have hks : Milestone.exit ∉
        (before.filterMap Reading.message?).filterMap Message.milestone? := by
      intro hmem
      obtain ⟨m, hm, hk⟩ := List.mem_filterMap.1 hmem
      exact hnone m hm (milestone?_eq_some_iff.1 hk)
    have hmessage : [last].filterMap Reading.message? = [m] := by
      simp [hm]
    have hahead : Stage.new.ahead = [.start, .ready, .close] ++ [.exit] := rfl
    rw [hearAll_concat, exitedCleanly_hear, if_pos hlast, decide_eq_true_iff, stage_hearAll, hnew,
      List.filterMap_append, hmessage, endsCleanly_concat_iff hexit hnone, prepares_iff,
      Stage.foldl_after_eq_closing_iff Stage.noConfusion hks, hahead,
      List.append_sublist_append_right]

end Server

/-! ## The exit code -/

/-- A session that is broken off has not been ended by the client. -/
theorem Rpc.Reading.isExit_of_result {r : Reading} {fault : RunFault}
    (h : r.result = .error fault) : r.isExit = false := by
  unfold Reading.result at h
  unfold Reading.isExit
  match r.outcome, h with
  | .error _, _ => rfl

namespace Program

variable {args : List String} {files : FileSystem} {options : Options} {settings : Settings}

/-- With arguments and settings that make sense the program is the server at work. -/
theorem run_eq_serve (hargs : CommandLine.parse args = .serve options)
    (hsettings : Settings.loadOrDefault files options.config? = .ok settings)
    (input : List UInt8) : run args files input = serve settings input := by
  have hloaded : Settings.loadOrDefaultWith (m := Id) files.readText options.config? =
      .ok settings := hsettings
  unfold run runWith
  rw [hargs]
  dsimp only
  rw [hloaded]
  rfl

theorem exitCode_serve_eq_zero_iff (settings : Settings) (input : List UInt8) :
    (serve settings input).exitCode = 0 ↔
      (Server.run { settings } {} input).result = .ok () ∧
        (Server.run { settings } {} input).server.exitedCleanly = true := by
  unfold serve Outcome.ofRun exitCode
  dsimp only
  cases (Server.run { settings } {} input).result with
  | ok _ => by_cases h : (Server.run { settings } {} input).server.exitedCleanly <;> simp [h]
  | error fault => simp [Outcome.failure]

end Program

/-- A run ends cleanly if the client has sent, in this order but not necessarily one after another,
the request to be served, the notification that it is ready, the request to prepare for the end,
and the notification of the end, and if that is the first such notification. Nothing else that is
read makes a difference. The server has ended if a notification of the end has been read, and the
exit code of the program is zero if the run has ended cleanly. -/
theorem Server.run_exitedCleanly_iff (settings : Settings) (written input : List UInt8) :
    ∃ before last, Session input before last ∧
      let ms := (before ++ [last]).filterMap Reading.message?
      let outcome := Server.run { settings } ⟨written, none⟩ input
      (outcome.server.exitedCleanly = true ↔ EndsCleanly ms) ∧
      (outcome.server.phase = .shutDown ↔ ∃ m ∈ ms, Marks m .exit) ∧
      ∀ {args : List String} {files : FileSystem} {options : Options},
        CommandLine.parse args = .serve options →
        Settings.loadOrDefault files options.config? = .ok settings →
        ((Program.run args files input).exitCode = 0 ↔ outcome.server.exitedCleanly = true) := by
  obtain ⟨before, last, hsession⟩ := exists_session input
  have hbefore := hsession.isExit_before
  have hrun : ∀ written, Server.run { settings } ⟨written, none⟩ input =
      Server.leave { settings } written (before ++ [last]) last :=
    fun written => Server.runFor_eq_leave hsession Phase.noConfusion written (Nat.lt_succ_self _)
  refine ⟨before, last, hsession, ?_⟩
  dsimp only
  rw [hrun]
  refine ⟨Server.exitedCleanly_hearAll_iff rfl rfl hbefore, ?_, ?_⟩
  · rw [← exists_isExit_iff]
    exact (Server.phase_hearAll_eq_shutDown_iff _ _).trans (or_iff_left Phase.noConfusion)
  · intro args files options hargs hsettings
    rw [Program.run_eq_serve hargs hsettings, Program.exitCode_serve_eq_zero_iff, hrun []]
    refine ⟨And.right, fun hclean => ⟨?_, hclean⟩⟩
    cases hresult : last.result with
    | ok _ => exact hresult
    | error fault =>
      -- A run that is broken off has not been ended by the client.
      have hexit := Server.isExit_of_exitedCleanly rfl hbefore hclean
      rw [Reading.isExit_of_result hresult] at hexit
      cases hexit

/-- A client that does what it has to do, in between takes requests for notifications and the other
way about, and in the end says more than it should. -/
def Sample.farewell : List Message :=
  [.request { id := .int 1, method := "initialize" }, .notification { method := "shutdown" },
    .notification { method := "initialized" }, .request { id := .int 2, method := "exit" },
    .request { id := .int 3, method := "shutdown" }, .notification { method := "exit" },
    .notification { method := "exit" }]

/-- Behind it the program ends with the exit code zero. -/
theorem Server.run_exitedCleanly_farewell :
    CommandLine.parse ["--debug"] = .serve { debug := true } ∧
      Settings.loadOrDefault {} none = .ok {} ∧
      (Program.run ["--debug"] {} (Sample.farewell.flatMap Message.frame)).exitCode = 0 := by
  have hargs : CommandLine.parse ["--debug"] = .serve { debug := true } := by rfl
  have hsettings : Settings.loadOrDefault {} none = .ok {} := rfl
  refine ⟨hargs, hsettings, ?_⟩
  obtain ⟨before, last, -, -, -, hcode⟩ :=
    Server.run_exitedCleanly_iff {} [] (Sample.farewell.flatMap Message.frame)
  have hclean : (Server.run { settings := {} } {}
      (Sample.farewell.flatMap Message.frame)).server.exitedCleanly = true := by
    decide +kernel
  exact (hcode hargs hsettings).2 hclean

end ScriptAssist
