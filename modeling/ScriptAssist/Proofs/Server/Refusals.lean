import ScriptAssist.Proofs.Server.Completion
import ScriptAssist.Proofs.Server.Lifecycle

/-!
# Refused messages

A message that is refused leaves the server as it was. The operations of a server cannot show this
by themselves: they are functions into `Except`, so a refusal has no server to go with it. Here they
are told once more as actions, in which checks and changes follow one another and a change stays
made whatever comes behind it. The two accounts agree (`handle_eq_perform`). An action is atomic if
its checks come before its changes, and this is so for every message but the one that ends the
session (`atomic_perform_iff`).
-/

namespace ScriptAssist

open Json Rpc

/-! ## Actions -/

/-- What is done to a server step by step. If it is refused half-way, what has been changed by then
stays changed. -/
abbrev Action := ExceptT Refusal (StateM Server)

namespace Action

variable {α β : Type} {x : Action α} {f : Server → Except Refusal α} {g : α → Action β}

/-- What comes of an action, and the server behind it. -/
def outcome (x : Action α) (s : Server) : Except Refusal α × Server :=
  StateT.run (ExceptT.run x) s

/-- Looks at the server, and may refuse to go on. -/
def check (f : Server → Except Refusal α) : Action α :=
  ExceptT.mk fun s => (f s, s)

/-- Changes the server. -/
def change (f : Server → Server) : Action Unit :=
  ExceptT.mk fun s => (.ok (), f s)

@[simp] theorem outcome_check (s : Server) : (check f).outcome s = (f s, s) := rfl

@[simp] theorem outcome_change (f : Server → Server) (s : Server) :
    (change f).outcome s = (.ok (), f s) := rfl

theorem outcome_bind (x : Action α) (g : α → Action β) (s : Server) :
    (x >>= g).outcome s =
      match x.outcome s with
      | (.ok a, s') => (g a).outcome s'
      | (.error refusal, s') => (.error refusal, s') := by
  unfold outcome
  rw [ExceptT.run_bind, StateT.run_bind]
  cases StateT.run (ExceptT.run x) s with
  | mk result s' => cases result <;> rfl

theorem outcome_map (h : α → β) (x : Action α) (s : Server) :
    (h <$> x).outcome s = ((x.outcome s).1.map h, (x.outcome s).2) := by
  unfold outcome
  rw [ExceptT.run_map, StateT.run_map]
  rfl

@[simp] theorem outcome_check_bind (s : Server) :
    (check f >>= g).outcome s =
      match f s with
      | .ok a => (g a).outcome s
      | .error refusal => (.error refusal, s) := by
  rw [outcome_bind, outcome_check]
  cases f s <;> rfl

@[simp] theorem outcome_change_bind (h : Server → Server) (g : Unit → Action β) (s : Server) :
    (change h >>= g).outcome s = (g ()).outcome (h s) := by
  rw [outcome_bind, outcome_change]

/-! ## Atomic actions -/

/-- Whatever comes of the action, it leaves the server as it was. -/
def Still (x : Action α) : Prop :=
  ∀ s, (x.outcome s).2 = s

/-- The action is never refused. -/
def Sure (x : Action α) : Prop :=
  ∀ s refusal, (x.outcome s).1 ≠ .error refusal

/-- If it is refused, the action leaves the server as it was. -/
def Atomic (x : Action α) : Prop :=
  ∀ s refusal, (x.outcome s).1 = .error refusal → (x.outcome s).2 = s

theorem Still.atomic (h : Still x) : Atomic x :=
  fun s _ _ => h s

theorem Sure.atomic (h : Sure x) : Atomic x :=
  fun s refusal hrefused => absurd hrefused (h s refusal)

theorem still_pure (a : α) : Still (pure a) :=
  fun _ => rfl

theorem still_check (f : Server → Except Refusal α) : Still (check f) :=
  fun _ => rfl

theorem sure_pure (a : α) : Sure (pure a) :=
  fun _ _ h => nomatch h

theorem sure_change (h : Server → Server) : Sure (change h) :=
  fun _ _ h => nomatch h

theorem Still.check_bind (h : ∀ a, Still (g a)) : Still (check f >>= g) := by
  intro s
  rw [outcome_check_bind]
  cases f s with
  | ok a => exact h a s
  | error refusal => rfl

/-- Behind a change nothing may be refused any more. -/
theorem Sure.change_bind {h : Server → Server} {g : Unit → Action β} (hg : Sure (g ())) :
    Sure (change h >>= g) := by
  intro s refusal
  rw [outcome_change_bind]
  exact hg (h s) refusal

/-- Before the first change anything may be. -/
theorem Atomic.check_bind (h : ∀ a, Atomic (g a)) : Atomic (check f >>= g) := by
  intro s refusal
  rw [outcome_check_bind]
  cases f s with
  | ok a => exact h a s refusal
  | error refusal => exact fun _ => rfl

theorem Still.map (h : α → β) (hx : Still x) : Still (h <$> x) := by
  intro s
  rw [outcome_map]
  exact hx s

theorem Atomic.map (h : α → β) (hx : Atomic x) : Atomic (h <$> x) := by
  intro s refusal
  rw [outcome_map]
  exact fun hrefused => hx s refusal (map_eq_error_iff.1 hrefused)

/-! ## The operations as actions -/

/-- Initializes the server, once. -/
def start (params : Value) : Action Value := do
  check fun s =>
    if s.phase = .initializing ∧ s.client?.isNone then .ok () else .error .notInitializing
  let client : ClientCapabilities := ⟨(params.get? "capabilities").getD (.object [])⟩
  change fun s =>
    s.useEngine (s.engine?.getD (.ofAssistant (Server.assistantFor s.settings client)))
  change fun s => { s with client? := some client }
  return Server.introduction

/-- Announces the end. -/
def shutdown : Action Value := do
  check Server.requireInitialized
  change fun s => { s with phase := .shuttingDown }
  return .null

/-- Answers a query about an open document. -/
def completion (params : Value) : Action Value := do
  check Server.requireInitialized
  let uri ← check fun _ => Params.uri params
  let position ← check fun _ => Params.position params
  let text ← check fun s => (s.documents.get? uri).elim (.error (.unknownDocument uri)) .ok
  let engine ← check fun s => s.engine?.elim (.error .noEngine) .ok
  return engine.answerAt text position (Params.trigger params)

/-- Carries out a command. -/
def executeCommand (params : Value) : Action Value := do
  check Server.requireInitialized
  let command ← check fun _ => Params.command params
  let action ← check fun s => ClientAction.ofCommand command s.settings.documentationUrl
  change fun s => s.ask action
  return .null

/-- Begins to serve. -/
def initialized : Action Unit := do
  check fun s => if s.phase = .initializing then .ok () else .error .notInitializing
  check fun s => if s.client?.isSome then .ok () else .error .initializedTooEarly
  change fun s => { s with phase := .initialized }
  change fun s => if s.settings.showWelcome then s.notify showMessageMethod welcomeParams else s

/-- Opens a document. -/
def didOpen (params : Value) : Action Unit := do
  check Server.requireInitialized
  let uri ← check fun _ => Params.uri params
  let text ← check fun _ => Params.openedText params
  change fun s => s.setDocument uri text

/-- Replaces the text of a document. -/
def didChange (params : Value) : Action Unit := do
  check Server.requireInitialized
  let uri ← check fun _ => Params.uri params
  let text? ← check fun _ => Params.changedText params
  change fun s => text?.elim s (s.setDocument uri)

/-- Closes a document. -/
def didClose (params : Value) : Action Unit := do
  check Server.requireInitialized
  let uri ← check fun _ => Params.uri params
  change fun s => s.removeDocument uri

/-- Ends, whatever went before; only then is it looked at whether that was too early. -/
def exit : Action Unit := do
  change fun s => { s with exitedCleanly := s.phase = .shuttingDown }
  change fun s => { s with phase := .shutDown }
  check fun s => if s.exitedCleanly then .ok () else .error .exitBeforeShutdown

/-- Does what a request asks for. -/
def ofRequest (r : Request) : Action Value :=
  match RequestMethod.ofName? r.method with
  | some .start => start r.args
  | some .shutdown => shutdown
  | some .completion => completion r.args
  | some .executeCommand => executeCommand r.args
  | none => check fun _ => .error (.unknownMethod r.method)

/-- Takes note of a notification. -/
def ofNotification (n : Notification) : Action Unit :=
  match NotificationMethod.ofName? n.method with
  | some .initialized => initialized
  | some .didOpen => didOpen n.args
  | some .didChange => didChange n.args
  | some .didClose => didClose n.args
  | some .exit => exit
  | none => pure ()

/-- Does what a message asks for. Only requests have a result. -/
def perform : Message → Action (Option Value)
  | .request r => some <$> ofRequest r
  | .notification n => (fun _ => none) <$> ofNotification n
  | .response _ => pure none

/-! ## The two accounts agree -/

/-- The outcome of an operation as one of an action, by what its result says of the server. A
refusal leaves the old server. -/
def settled (s : Server) (split : β → Server × α) : Except Refusal β → Except Refusal α × Server
  | .ok b => (.ok (split b).2, (split b).1)
  | .error refusal => (.error refusal, s)

/-- A check refuses what the operation refuses at this place. -/
theorem outcome_check_bind_eq_settled {γ : Type} {s : Server} {split : γ → Server × β}
    {k : α → Except Refusal γ} (h : ∀ a, (g a).outcome s = settled s split (k a)) :
    (check f >>= g).outcome s = settled s split (f s >>= k) := by
  rw [outcome_check_bind]
  cases f s with
  | ok a => exact h a
  | error refusal => rfl

theorem outcome_start (params : Value) (s : Server) :
    (start params).outcome s = settled s id (s.start params) := by
  unfold start Server.start
  rw [outcome_check_bind]
  by_cases h : s.phase = .initializing ∧ s.client?.isNone
  · rw [if_pos h, if_pos h]
    rfl
  · rw [if_neg h, if_neg h]
    rfl

theorem outcome_shutdown (s : Server) : shutdown.outcome s = settled s id s.shutdown :=
  outcome_check_bind_eq_settled fun _ => rfl

theorem outcome_completion (params : Value) (s : Server) :
    (completion params).outcome s = settled s (fun v => (s, v)) (s.completion params) := by
  refine outcome_check_bind_eq_settled fun _ => ?_
  refine outcome_check_bind_eq_settled fun uri => ?_
  refine outcome_check_bind_eq_settled fun position => ?_
  rw [outcome_check_bind]
  cases s.documents.get? uri with
  | none => rfl
  | some text =>
    simp only [Option.elim_some, outcome_check_bind]
    cases s.engine? <;> rfl

theorem outcome_executeCommand (params : Value) (s : Server) :
    (executeCommand params).outcome s = settled s id (s.executeCommand params) :=
  outcome_check_bind_eq_settled fun _ => outcome_check_bind_eq_settled fun _ =>
    outcome_check_bind_eq_settled fun _ => rfl

theorem outcome_initialized (s : Server) :
    initialized.outcome s = settled s (fun s' => (s', ())) s.initialized := by
  unfold initialized Server.initialized
  rw [outcome_check_bind]
  by_cases hphase : s.phase = .initializing
  · rw [if_pos hphase, if_neg (not_not_intro hphase)]
    cases hclient : s.client? with
    | none => simp [hclient, settled]
    | some client => simp [hclient, settled]
  · rw [if_neg hphase, if_pos hphase]
    rfl

theorem outcome_didOpen (params : Value) (s : Server) :
    (didOpen params).outcome s = settled s (fun s' => (s', ())) (s.didOpen params) :=
  outcome_check_bind_eq_settled fun _ => outcome_check_bind_eq_settled fun _ =>
    outcome_check_bind_eq_settled fun _ => rfl

theorem outcome_didChange (params : Value) (s : Server) :
    (didChange params).outcome s = settled s (fun s' => (s', ())) (s.didChange params) := by
  refine outcome_check_bind_eq_settled fun _ => ?_
  refine outcome_check_bind_eq_settled fun uri => ?_
  refine outcome_check_bind_eq_settled fun text? => ?_
  cases text? <;> rfl

theorem outcome_didClose (params : Value) (s : Server) :
    (didClose params).outcome s = settled s (fun s' => (s', ())) (s.didClose params) :=
  outcome_check_bind_eq_settled fun _ => outcome_check_bind_eq_settled fun _ => rfl

theorem outcome_exit (s : Server) : exit.outcome s = (s.exit.2, s.exit.1) := by
  unfold exit Server.exit
  simp only [outcome_change_bind, outcome_check]

theorem outcome_ofRequest (r : Request) (s : Server) :
    (ofRequest r).outcome s = settled s id (s.answer r) := by
  unfold ofRequest Server.answer
  cases RequestMethod.ofName? r.method with
  | none => rfl
  | some method =>
    cases method with
    | start => exact outcome_start r.args s
    | shutdown => exact outcome_shutdown s
    | executeCommand => exact outcome_executeCommand r.args s
    | completion =>
      refine (outcome_completion r.args s).trans ?_
      show _ = settled s id ((s.completion r.args).map fun v => (s, v))
      cases s.completion r.args <;> rfl

theorem settled_eq_settle (s : Server) (outcome : Except Refusal Server) :
    settled s (fun s' => (s', ())) outcome = ((s.settle outcome).2, (s.settle outcome).1) := by
  cases outcome <;> rfl

theorem outcome_ofNotification (n : Notification) (s : Server) :
    (ofNotification n).outcome s = ((s.note n).2, (s.note n).1) := by
  unfold ofNotification Server.note
  cases NotificationMethod.ofName? n.method with
  | none => rfl
  | some method =>
    cases method with
    | initialized => exact (outcome_initialized s).trans (settled_eq_settle s _)
    | didOpen => exact (outcome_didOpen n.args s).trans (settled_eq_settle s _)
    | didChange => exact (outcome_didChange n.args s).trans (settled_eq_settle s _)
    | didClose => exact (outcome_didClose n.args s).trans (settled_eq_settle s _)
    | exit => exact outcome_exit s

end Action

/-- The response to a message of which something has come. Only requests have one. -/
def Rpc.Message.replyTo : Message → Except Refusal (Option Value) → Option Message
  | request r, .ok result? => some (.response (.success r.id (result?.getD .null)))
  | request r, .error refusal => some (.response (.failure r.id refusal.fault))
  | _, _ => none

/-- What a server does about a message is what the action does. -/
theorem Server.handle_eq_perform (s : Server) (m : Message) :
    s.handle m =
      (((Action.perform m).outcome s).2, m.replyTo ((Action.perform m).outcome s).1) := by
  cases m with
  | request r =>
    unfold Action.perform
    rw [Action.outcome_map, Action.outcome_ofRequest]
    cases h : s.answer r with
    | ok outcome => exact handle_of_answer h
    | error refusal => exact handle_of_refusal h
  | notification n =>
    unfold Action.perform
    rw [Action.outcome_map, Action.outcome_ofNotification]
    rfl
  | response r => rfl

/-! ## Atomicity of the operations -/

namespace Action

theorem still_completion (params : Value) : Still (completion params) :=
  .check_bind fun _ => .check_bind fun _ => .check_bind fun _ => .check_bind fun _ =>
    .check_bind fun _ => still_pure _

theorem atomic_start (params : Value) : Atomic (start params) :=
  .check_bind fun _ => (Sure.change_bind (.change_bind (sure_pure Server.introduction))).atomic

theorem atomic_shutdown : Atomic shutdown :=
  .check_bind fun _ => (Sure.change_bind (sure_pure Value.null)).atomic

theorem atomic_executeCommand (params : Value) : Atomic (executeCommand params) :=
  .check_bind fun _ => .check_bind fun _ => .check_bind fun _ =>
    (Sure.change_bind (sure_pure Value.null)).atomic

theorem atomic_initialized : Atomic initialized :=
  .check_bind fun _ => .check_bind fun _ => (Sure.change_bind (sure_change _)).atomic

theorem atomic_didOpen (params : Value) : Atomic (didOpen params) :=
  .check_bind fun _ => .check_bind fun _ => .check_bind fun _ => (sure_change _).atomic

theorem atomic_didChange (params : Value) : Atomic (didChange params) :=
  .check_bind fun _ => .check_bind fun _ => .check_bind fun _ => (sure_change _).atomic

theorem atomic_didClose (params : Value) : Atomic (didClose params) :=
  .check_bind fun _ => .check_bind fun _ => (sure_change _).atomic

theorem atomic_ofRequest (r : Request) : Atomic (ofRequest r) := by
  unfold ofRequest
  cases RequestMethod.ofName? r.method with
  | none => exact (still_check _).atomic
  | some method =>
    cases method with
    | start => exact atomic_start r.args
    | shutdown => exact atomic_shutdown
    | completion => exact (still_completion r.args).atomic
    | executeCommand => exact atomic_executeCommand r.args

theorem atomic_ofNotification {n : Notification} (h : n.method ≠ NotificationMethod.exit.name) :
    Atomic (ofNotification n) := by
  unfold ofNotification
  cases hmethod : NotificationMethod.ofName? n.method with
  | none => exact (still_pure ()).atomic
  | some method =>
    cases method with
    | initialized => exact atomic_initialized
    | didOpen => exact atomic_didOpen n.args
    | didChange => exact atomic_didChange n.args
    | didClose => exact atomic_didClose n.args
    | exit => exact absurd (eq_name_of_find? hmethod) h

/-- A server that has just begun refuses to end, but ends. -/
theorem not_atomic_exit : ¬ Atomic exit := by
  intro h
  have hsame := h { settings := {} } .exitBeforeShutdown rfl
  exact absurd (congrArg Server.phase hsame) (by decide)

theorem Atomic.of_map {α β : Type} {x : Action α} {h : α → β} (hx : Atomic (h <$> x)) :
    Atomic x := by
  intro s refusal hrefused
  have hsame := hx s refusal
  rw [outcome_map, hrefused] at hsame
  exact hsame rfl

/-- Only the message that ends the session is refused when it is too late. -/
theorem atomic_perform_iff {m : Message} : Atomic (perform m) ↔ ¬ Marks m .exit := by
  cases m with
  | request r => exact iff_of_true ((atomic_ofRequest r).map some) fun h => nomatch h
  | response r => exact iff_of_true (still_pure none).atomic fun h => nomatch h
  | notification n =>
    constructor
    · intro h hmarks
      cases hmarks with
      | exit hexit =>
        have hofNotification : ofNotification n = exit := by
          rw [ofNotification, hexit]
          rfl
        exact not_atomic_exit (hofNotification ▸ h.of_map)
    · intro h
      exact (atomic_ofNotification fun hexit => h (.exit hexit)).map _

end Action

/-! ## Refused and idle messages -/

namespace Server

/-- The server refuses a message. If the message is a request, the client is told so. -/
inductive Refuses (s : Server) : Message → Prop
  | request {r : Request} {reply : Response}
      (hreply : (s.handle (.request r)).2 = some (.response reply)) (herror : reply.error?.isSome) :
      Refuses s (.request r)
  | notification {n : Notification} {refusal : Refusal} (h : (s.note n).2 = .error refusal) :
      Refuses s (.notification n)

theorem Refuses.outcome {s : Server} {m : Message} (h : s.Refuses m) :
    ∃ refusal, ((Action.perform m).outcome s).1 = .error refusal := by
  cases h with
  | @request r reply hreply herror =>
    rw [handle_eq_perform] at hreply
    cases houtcome : ((Action.perform (.request r)).outcome s).1 with
    | error refusal => exact ⟨refusal, rfl⟩
    | ok result? =>
      -- A request that is not refused has a response without an error.
      rw [houtcome] at hreply
      cases hreply
      cases herror
  | @notification n refusal h =>
    refine ⟨refusal, ?_⟩
    unfold Action.perform
    rw [Action.outcome_map, Action.outcome_ofNotification, h]
    rfl

end Server

/-- A message that asks for nothing that could change a server. -/
inductive Idle : Message → Prop
  | query {r : Request} (h : r.method = "textDocument/completion") : Idle (.request r)
  | response (r : Response) : Idle (.response r)
  | unknown {n : Notification} (h : ∀ m : NotificationMethod, n.method ≠ m.name) :
      Idle (.notification n)

theorem Idle.still {m : Message} (h : Idle m) : (Action.perform m).Still := by
  cases h with
  | @query r h =>
    have hofRequest : Action.ofRequest r = Action.completion r.args := by
      rw [Action.ofRequest, h]
      rfl
    rw [Action.perform, hofRequest]
    exact (Action.still_completion r.args).map some
  | response r => exact Action.still_pure none
  | @unknown n h =>
    have hnone : NotificationMethod.ofName? n.method = none :=
      Option.eq_none_iff_forall_ne_some.2 fun m hm => h m (eq_name_of_find? hm)
    rw [Action.perform, Action.ofNotification, hnone]
    exact (Action.still_pure ()).map _

/-- What a server does about a message is what the action does, in which nothing is taken back. The
action is atomic unless the message ends the session: hence any other message that is refused leaves
the server as it was, in whatever state it may have been, and so does every query, every response
and every notification of an unknown method. -/
theorem Server.handle_fst_of_refuses (m : Message) :
    (∀ s : Server, s.handle m =
      (((Action.perform m).outcome s).2, m.replyTo ((Action.perform m).outcome s).1)) ∧
    ((Action.perform m).Atomic ↔ ¬ Marks m .exit) ∧
    (¬ Marks m .exit → ∀ s : Server, s.Refuses m → (s.handle m).1 = s) ∧
    (Idle m → ∀ s : Server, (s.handle m).1 = s) := by
  refine ⟨fun s => s.handle_eq_perform m, Action.atomic_perform_iff, ?_, ?_⟩
  · intro hexit s hrefuses
    obtain ⟨refusal, hrefused⟩ := hrefuses.outcome
    rw [handle_eq_perform]
    exact Action.atomic_perform_iff.2 hexit s refusal hrefused
  · intro hidle s
    rw [handle_eq_perform]
    exact hidle.still s

namespace Sample

/-- A command that no server knows. -/
def unknownCommand : Request where
  id := .int 7
  method := "workspace/executeCommand"
  params? := some <| .object [("command", .text "close")]

end Sample

open Sample in
/-- A server that has served a while refuses a command that it does not know, and a query about a
document that is not open; both leave it as it was. -/
theorem Server.handle_fst_of_refuses_served :
    ¬ Marks (.request unknownCommand) .exit ∧
      (served lengthy).Refuses (.request unknownCommand) ∧
      ((served lengthy).handle (.request unknownCommand)).1 = served lengthy ∧
      Idle (.request (query "c.js")) ∧
      ((served lengthy).handle (.request (query "c.js"))).1 = served lengthy := by
  have hexit : ¬ Marks (.request unknownCommand) .exit := fun h => nomatch h
  have hrefuses : (served lengthy).Refuses (.request unknownCommand) := .request rfl rfl
  have hidle : Idle (.request (query "c.js")) := .query rfl
  exact ⟨hexit, hrefuses, (handle_fst_of_refuses _).2.2.1 hexit _ hrefuses, hidle,
    (handle_fst_of_refuses _).2.2.2 hidle _⟩

end ScriptAssist
