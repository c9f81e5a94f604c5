import ScriptAssist.Proofs.Server.Step

/-!
# The life of a server

Four calls move a server on: to be introduced to the client, to be told that the client is ready,
that the end is near, and that it has come. These are the milestones, and they are passed in this
order; only the last one may come too early. A milestone may be reached by a message or by a direct
call, so both are calls here. `Change` lists what a call can do, each with its milestone and with
whether it succeeds, and `change_call` says that there is nothing else.
-/

namespace ScriptAssist

open Json Rpc

/-! ## Milestones and stages -/

/-- What moves a server on. -/
inductive Milestone where
  | start
  | ready
  | close
  | exit
  deriving DecidableEq, Repr

/-- How far a server has come. While it waits to be initialized it may or may not have met its
client, so this says more than the phase. -/
inductive Stage where
  | new
  | met
  | serving
  | closing
  | ended
  deriving DecidableEq, Repr

/-- The stage in which a milestone is due. -/
def Milestone.due : Milestone → Stage
  | start => .new
  | ready => .met
  | close => .serving
  | exit => .closing

/-- The stage behind a milestone. -/
def Milestone.reached : Milestone → Stage
  | start => .met
  | ready => .serving
  | close => .closing
  | exit => .ended

namespace Stage

/-- The milestones that lie ahead. -/
def ahead : Stage → List Milestone
  | new => [.start, .ready, .close, .exit]
  | met => [.ready, .close, .exit]
  | serving => [.close, .exit]
  | closing => [.exit]
  | ended => []

/-- Where a milestone leads. One that is not due leads nowhere, but for the end, which may come at
any time. -/
def after (st : Stage) (k : Milestone) : Stage :=
  if st = k.due ∨ k = .exit then k.reached else st

theorem after_due (k : Milestone) : k.due.after k = k.reached :=
  if_pos (.inl rfl)

theorem after_exit (st : Stage) : st.after .exit = .ended :=
  if_pos (.inr rfl)

theorem after_of_ne {st : Stage} {k : Milestone} (hdue : st ≠ k.due) (hexit : k ≠ .exit) :
    st.after k = st :=
  if_neg (not_or.2 ⟨hdue, hexit⟩)

theorem ahead_due (k : Milestone) : k.due.ahead = k :: k.reached.ahead := by
  cases k <;> rfl

end Stage

/-- The stage that a server is in. -/
def Server.stage (s : Server) : Stage :=
  match s.phase with
  | .initializing => if s.client?.isSome then .met else .new
  | .initialized => .serving
  | .shuttingDown => .closing
  | .shutDown => .ended

namespace Server

variable {s : Server}

theorem stage_eq_new_iff : s.stage = .new ↔ s.phase = .initializing ∧ s.client? = none := by
  unfold stage
  cases s.phase <;> cases s.client? <;> simp

theorem stage_eq_met_iff : s.stage = .met ↔ s.phase = .initializing ∧ s.client?.isSome := by
  unfold stage
  cases s.phase <;> cases s.client? <;> simp

theorem stage_eq_serving_iff : s.stage = .serving ↔ s.phase = .initialized := by
  unfold stage
  cases s.phase <;> cases s.client? <;> simp

theorem stage_eq_closing_iff : s.stage = .closing ↔ s.phase = .shuttingDown := by
  unfold stage
  cases s.phase <;> cases s.client? <;> simp

theorem stage_eq_ended_iff : s.stage = .ended ↔ s.phase = .shutDown := by
  unfold stage
  cases s.phase <;> cases s.client? <;> simp

end Server

/-! ## Calls -/

/-- What can be done with a server: it handles a message, or is called directly. -/
inductive Call where
  | message (m : Message)
  | start (params : Value)
  | initialized
  | shutdown
  | exit
  | didOpen (params : Value)
  | didChange (params : Value)
  | didClose (params : Value)
  | completion (params : Value)
  | executeCommand (params : Value)
  | setDocument (uri text : String)
  | removeDocument (uri : String)
  | useEngine (e : Engine)
  | drain

/-- The parameters of a notification. If it has none, they are an object without members. -/
def Rpc.Notification.args (n : Notification) : Value :=
  n.params?.getD (.object [])

namespace RequestMethod

/-- The call that a request stands for. -/
def call (params : Value) : RequestMethod → Call
  | start => .start params
  | shutdown => .shutdown
  | completion => .completion params
  | executeCommand => .executeCommand params

/-- The milestone that a request stands for. -/
def milestone? : RequestMethod → Option Milestone
  | start => some .start
  | shutdown => some .close
  | completion | executeCommand => none

end RequestMethod

namespace NotificationMethod

/-- The call that a notification stands for. -/
def call (params : Value) : NotificationMethod → Call
  | initialized => .initialized
  | didOpen => .didOpen params
  | didChange => .didChange params
  | didClose => .didClose params
  | exit => .exit

/-- The milestone that a notification stands for. -/
def milestone? : NotificationMethod → Option Milestone
  | initialized => some .ready
  | exit => some .exit
  | didOpen | didChange | didClose => none

end NotificationMethod

/-- The milestone that a message stands for. What is a milestone as a request is none as a
notification, and the other way about. -/
def Rpc.Message.milestone? : Message → Option Milestone
  | request r => (RequestMethod.ofName? r.method).bind RequestMethod.milestone?
  | notification n => (NotificationMethod.ofName? n.method).bind NotificationMethod.milestone?
  | response _ => none

/-- The message by which a client passes a milestone. -/
inductive Marks : Message → Milestone → Prop
  | start {r : Request} (h : r.method = "initialize") : Marks (.request r) .start
  | ready {n : Notification} (h : n.method = "initialized") : Marks (.notification n) .ready
  | close {r : Request} (h : r.method = "shutdown") : Marks (.request r) .close
  | exit {n : Notification} (h : n.method = "exit") : Marks (.notification n) .exit

theorem milestone?_eq_some_iff {m : Message} {k : Milestone} :
    m.milestone? = some k ↔ Marks m k := by
  constructor
  · intro h
    cases m with
    | request r =>
      obtain ⟨method, hmethod, hk⟩ := Option.bind_eq_some_iff.1 h
      have hname := eq_name_of_find? hmethod
      cases method with
      | start =>
        cases hk
        exact .start hname
      | shutdown =>
        cases hk
        exact .close hname
      | completion => cases hk
      | executeCommand => cases hk
    | notification n =>
      obtain ⟨method, hmethod, hk⟩ := Option.bind_eq_some_iff.1 h
      have hname := eq_name_of_find? hmethod
      cases method with
      | initialized =>
        cases hk
        exact .ready hname
      | exit =>
        cases hk
        exact .exit hname
      | didOpen => cases hk
      | didChange => cases hk
      | didClose => cases hk
    | response r => cases h
  · intro h
    cases h with
    | start h => exact congrArg (fun name => (RequestMethod.ofName? name).bind _) h
    | ready h => exact congrArg (fun name => (NotificationMethod.ofName? name).bind _) h
    | close h => exact congrArg (fun name => (RequestMethod.ofName? name).bind _) h
    | exit h => exact congrArg (fun name => (NotificationMethod.ofName? name).bind _) h

/-- The milestone that a call stands for. -/
def Call.milestone? : Call → Option Milestone
  | message m => m.milestone?
  | start _ => some .start
  | initialized => some .ready
  | shutdown => some .close
  | exit => some .exit
  | _ => none

namespace Server

/-- Whether a message is refused. A client hears of it only if the message is a request. -/
def verdict (s : Server) : Message → Except Refusal Unit
  | .request r => (s.answer r).map fun _ => ()
  | .notification n => (s.note n).2
  | .response _ => .ok ()

/-- What a call does, and whether it is refused. -/
def call (s : Server) : Call → Server × Except Refusal Unit
  | .message m => ((s.handle m).1, s.verdict m)
  | .start params => s.settle ((s.start params).map Prod.fst)
  | .initialized => s.settle s.initialized
  | .shutdown => s.settle (s.shutdown.map Prod.fst)
  | .exit => s.exit
  | .didOpen params => s.settle (s.didOpen params)
  | .didChange params => s.settle (s.didChange params)
  | .didClose params => s.settle (s.didClose params)
  | .completion params => s.settle ((s.completion params).map fun _ => s)
  | .executeCommand params => s.settle ((s.executeCommand params).map Prod.fst)
  | .setDocument uri text => (s.setDocument uri text, .ok ())
  | .removeDocument uri => (s.removeDocument uri, .ok ())
  | .useEngine e => (s.useEngine e, .ok ())
  | .drain => (s.drain.1, .ok ())

theorem call_request_eq_settle (s : Server) (r : Request) :
    s.call (.message (.request r)) = s.settle ((s.answer r).map Prod.fst) := by
  cases hanswer : s.answer r <;> simp only [call, verdict, handle, hanswer] <;> rfl

theorem call_notification_eq_note (s : Server) (n : Notification) :
    s.call (.message (.notification n)) = s.note n := rfl

/-- A request does what its method does when it is called directly. -/
theorem call_request (s : Server) {r : Request} {m : RequestMethod}
    (h : RequestMethod.ofName? r.method = some m) :
    s.call (.message (.request r)) = s.call (m.call r.args) := by
  rw [call_request_eq_settle, answer, h]
  cases m with
  | completion =>
    show s.settle (((s.completion r.args).map fun result => (s, result)).map Prod.fst) =
      s.settle ((s.completion r.args).map fun _ => s)
    cases s.completion r.args <;> rfl
  | _ => rfl

theorem call_unknown_request (s : Server) {r : Request}
    (h : RequestMethod.ofName? r.method = none) :
    s.call (.message (.request r)) = (s, .error (.unknownMethod r.method)) := by
  rw [call_request_eq_settle, answer, h]
  rfl

/-- So does a notification. -/
theorem call_notification (s : Server) {n : Notification} {m : NotificationMethod}
    (h : NotificationMethod.ofName? n.method = some m) :
    s.call (.message (.notification n)) = s.call (m.call n.args) := by
  rw [call_notification_eq_note, note, h]
  cases m <;> rfl

theorem call_unknown_notification (s : Server) {n : Notification}
    (h : NotificationMethod.ofName? n.method = none) :
    s.call (.message (.notification n)) = (s, .ok ()) := by
  rw [call_notification_eq_note, note, h]

/-! ## What a call can do -/

/-- What a call can do to a server, by the milestone that the call stands for and by whether it
succeeds. -/
inductive Change (s : Server) : Option Milestone → (ok : Bool) → Server → Prop
  | meet (client : ClientCapabilities) (h : s.stage = Milestone.start.due) :
      Change s (some .start) true (s.meet client)
  | serve (h : s.stage = Milestone.ready.due) : Change s (some .ready) true s.serve
  | close (h : s.stage = Milestone.close.due) :
      Change s (some .close) true { s with phase := .shuttingDown }
  /-- The end comes in any case, but it is no success if it has not been announced. -/
  | exit : Change s (some .exit) (decide (s.stage = Milestone.exit.due)) s.exit.1
  /-- The milestone is not due. -/
  | refuse {k : Milestone} (hexit : k ≠ .exit) (h : s.stage ≠ k.due) : Change s (some k) false s
  /-- The documents may have changed, nothing else. -/
  | edit (documents : Documents) (ok : Bool) : Change s none ok { s with documents }
  | ask (action : ClientAction) : Change s none true (s.ask action)
  | equip (e : Engine) : Change s none true (s.useEngine e)
  | drain : Change s none true s.drain.1

theorem change_settle {k? : Option Milestone} {outcome : Except Refusal Server}
    (hok : ∀ s', outcome = .ok s' → Change s k? true s')
    (herror : ∀ refusal, outcome = .error refusal → Change s k? false s) :
    Change s k? (s.settle outcome).2.isOk (s.settle outcome).1 := by
  cases outcome with
  | ok s' => exact hok s' rfl
  | error refusal => exact herror refusal rfl

/-- A call that is for no milestone leaves everything as it is when it is refused. -/
theorem change_settle_none {outcome : Except Refusal Server}
    (hok : ∀ s', outcome = .ok s' → Change s none true s') :
    Change s none (s.settle outcome).2.isOk (s.settle outcome).1 :=
  change_settle hok fun _ _ => .edit s.documents false

theorem change_edit {s' : Server}
    (h : s.phase = .initialized ∧ ∃ documents, s' = { s with documents }) :
    Change s none true s' := by
  obtain ⟨-, documents, rfl⟩ := h
  exact .edit documents true

theorem change_start (s : Server) (params : Value) :
    Change s (some .start) (s.call (.start params)).2.isOk (s.call (.start params)).1 := by
  apply change_settle
  · intro s' h
    obtain ⟨⟨s'', result⟩, hstart, rfl⟩ := map_eq_ok_iff.1 h
    obtain ⟨hphase, hclient, rfl, -⟩ := start_eq_ok_iff.1 hstart
    exact .meet _ (stage_eq_new_iff.2 ⟨hphase, hclient⟩)
  · intro refusal h
    rw [map_eq_error_iff] at h
    refine .refuse (by decide) fun hstage => ?_
    obtain ⟨hphase, hclient⟩ := stage_eq_new_iff.1 hstage
    rw [start_eq_ok_iff.2 ⟨hphase, hclient, rfl, rfl⟩] at h
    cases h

theorem change_initialized (s : Server) :
    Change s (some .ready) (s.call .initialized).2.isOk (s.call .initialized).1 := by
  apply change_settle
  · intro s' h
    obtain ⟨hphase, hclient, rfl⟩ := initialized_eq_ok_iff.1 h
    exact .serve (stage_eq_met_iff.2 ⟨hphase, hclient⟩)
  · intro refusal h
    refine .refuse (by decide) fun hstage => ?_
    obtain ⟨hphase, hclient⟩ := stage_eq_met_iff.1 hstage
    rw [initialized_eq_ok_iff.2 ⟨hphase, hclient, rfl⟩] at h
    cases h

theorem change_shutdown (s : Server) :
    Change s (some .close) (s.call .shutdown).2.isOk (s.call .shutdown).1 := by
  apply change_settle
  · intro s' h
    obtain ⟨⟨s'', result⟩, hshutdown, rfl⟩ := map_eq_ok_iff.1 h
    obtain ⟨hphase, rfl, -⟩ := shutdown_eq_ok_iff.1 hshutdown
    exact .close (stage_eq_serving_iff.2 hphase)
  · intro refusal h
    rw [map_eq_error_iff] at h
    refine .refuse (by decide) fun hstage => ?_
    rw [shutdown_eq_ok_iff.2 ⟨stage_eq_serving_iff.1 hstage, rfl, rfl⟩] at h
    cases h

theorem change_exit (s : Server) :
    Change s (some .exit) (s.call .exit).2.isOk (s.call .exit).1 := by
  have hok : (s.call .exit).2.isOk = decide (s.stage = Milestone.exit.due) := by
    have hdue : s.stage = Milestone.exit.due ↔ s.phase = .shuttingDown := stage_eq_closing_iff
    by_cases h : s.phase = .shuttingDown
    · rw [decide_eq_true (hdue.2 h)]
      simp [call, exit, h, Except.isOk, Except.toBool]
    · rw [decide_eq_false (mt hdue.1 h)]
      simp [call, exit, h, Except.isOk, Except.toBool]
  rw [hok]
  exact .exit

theorem change_executeCommand (s : Server) (params : Value) :
    Change s none (s.call (.executeCommand params)).2.isOk (s.call (.executeCommand params)).1 := by
  refine change_settle_none fun s' h => ?_
  obtain ⟨⟨s'', result⟩, hcommand, rfl⟩ := map_eq_ok_iff.1 h
  obtain ⟨-, rfl, -⟩ := executeCommand_eq_ok hcommand
  exact .ask _

theorem change_completion (s : Server) (params : Value) :
    Change s none (s.call (.completion params)).2.isOk (s.call (.completion params)).1 := by
  refine change_settle_none fun s' h => ?_
  obtain ⟨_, -, rfl⟩ := map_eq_ok_iff.1 h
  exact .edit s.documents true

theorem change_request_call (s : Server) (params : Value) (m : RequestMethod) :
    Change s m.milestone? (s.call (m.call params)).2.isOk (s.call (m.call params)).1 := by
  cases m with
  | start => exact change_start s params
  | shutdown => exact change_shutdown s
  | completion => exact change_completion s params
  | executeCommand => exact change_executeCommand s params

theorem change_notification_call (s : Server) (params : Value) (m : NotificationMethod) :
    Change s m.milestone? (s.call (m.call params)).2.isOk (s.call (m.call params)).1 := by
  cases m with
  | initialized => exact change_initialized s
  | didOpen => exact change_settle_none fun s' h => change_edit (didOpen_eq_ok h)
  | didChange => exact change_settle_none fun s' h => change_edit (didChange_eq_ok h)
  | didClose => exact change_settle_none fun s' h => change_edit (didClose_eq_ok h)
  | exit => exact change_exit s

/-- A message does what its method does, or is unknown and does nothing. -/
theorem change_message (s : Server) (m : Message) :
    Change s m.milestone? (s.call (.message m)).2.isOk (s.call (.message m)).1 := by
  cases m with
  | request r =>
    cases hm : RequestMethod.ofName? r.method with
    | some m =>
      rw [call_request s hm, Message.milestone?, hm]
      exact change_request_call s r.args m
    | none =>
      rw [call_unknown_request s hm, Message.milestone?, hm]
      exact .edit s.documents false
  | notification n =>
    cases hm : NotificationMethod.ofName? n.method with
    | some m =>
      rw [call_notification s hm, Message.milestone?, hm]
      exact change_notification_call s n.args m
    | none =>
      rw [call_unknown_notification s hm, Message.milestone?, hm]
      exact .edit s.documents true
  | response r => exact .edit s.documents true

/-- There is nothing else that a call can do. -/
theorem change_call (s : Server) (c : Call) :
    Change s c.milestone? (s.call c).2.isOk (s.call c).1 := by
  cases c with
  | message m => exact change_message s m
  | start params => exact change_start s params
  | initialized => exact change_initialized s
  | shutdown => exact change_shutdown s
  | exit => exact change_exit s
  | didOpen params => exact change_notification_call s params .didOpen
  | didChange params => exact change_notification_call s params .didChange
  | didClose params => exact change_notification_call s params .didClose
  | completion params => exact change_completion s params
  | executeCommand params => exact change_executeCommand s params
  | setDocument uri text => exact .edit _ true
  | removeDocument uri => exact .edit _ true
  | useEngine e => exact .equip e
  | drain => exact .drain

namespace Change

variable {s s' : Server} {k? : Option Milestone} {ok : Bool}

/-! ## What follows for the stage -/

/-- Milestones move a server on, and nothing else does. -/
theorem stage_eq (h : Change s k? ok s') : s'.stage = k?.elim s.stage s.stage.after := by
  cases h with
  | meet client h =>
    obtain ⟨hphase, -⟩ := stage_eq_new_iff.1 h
    show (s.meet client).stage = s.stage.after .start
    rw [h, Stage.after_due]
    exact stage_eq_met_iff.2 ⟨hphase, rfl⟩
  | serve h =>
    show s.serve.stage = s.stage.after .ready
    rw [h, Stage.after_due]
    exact stage_eq_serving_iff.2 (Step.phase_serve s)
  | close h =>
    show Stage.closing = s.stage.after .close
    rw [h, Stage.after_due]
    rfl
  | exit => exact (Stage.after_exit s.stage).symm
  | refuse hexit h => exact (Stage.after_of_ne h hexit).symm
  | _ => rfl

/-- A milestone succeeds if it is due. -/
theorem ok_eq {k : Milestone} (h : Change s (some k) ok s') : ok = decide (s.stage = k.due) := by
  cases h with
  | meet client h => exact (decide_eq_true h).symm
  | serve h => exact (decide_eq_true h).symm
  | close h => exact (decide_eq_true h).symm
  | exit => rfl
  | refuse hexit h => exact (decide_eq_false h).symm

/-- Only the end decides whether it was announced. -/
theorem exitedCleanly_eq (h : Change s k? ok s') :
    s'.exitedCleanly =
      if k? = some .exit then decide (s.stage = .closing) else s.exitedCleanly := by
  cases h with
  | serve =>
    unfold Server.serve
    split <;> rfl
  | exit =>
    rw [if_pos rfl]
    exact decide_eq_decide.2 stage_eq_closing_iff.symm
  | refuse hexit => rw [if_neg fun h => hexit (Option.some.inj h)]
  | _ => rfl

/-- A client that has been met is not forgotten. -/
theorem client?_eq (h : Change s k? ok s') (hclient : s.client?.isSome) :
    s'.client? = s.client? := by
  cases h with
  | meet client h =>
    rw [(stage_eq_new_iff.1 h).2] at hclient
    cases hclient
  | serve =>
    unfold Server.serve
    split <;> rfl
  | _ => rfl

end Change

end Server

end ScriptAssist
