import ScriptAssist.Proofs.Outcomes
import ScriptAssist.Server.Handling

/-!
# Steps of a server

What a server can become when it handles a message. A `Step` is one of seven changes, each with
the phase in which it happens; `step_handle` says that there are no others. What every message
does to the phase, to the settings and to the messages that wait is read off the seven cases, and
`handle_reply` says who is answered.
-/

namespace ScriptAssist

open Json Rpc

/-! ## Messages -/

namespace Rpc.Message

/-- Whether the message ends the session. -/
def isExit : Message → Bool
  | notification n => n.method = NotificationMethod.exit.name
  | _ => false

/-- The id that the answer to a message has to carry. Only requests are answered. -/
def awaited : Message → List Value
  | request r => [r.id]
  | _ => []

/-- The id that a message carries as an answer. Only responses are answers. -/
def answers : Message → List Value
  | response r => [r.id]
  | _ => []

end Rpc.Message

/-- The parameters of a request. If it has none, they are an object without members. -/
def Rpc.Request.args (r : Request) : Value :=
  r.params?.getD (.object [])

/-- What a client says about itself in a request to initialize the server. -/
def Rpc.Request.client (r : Request) : ClientCapabilities :=
  ⟨(r.args.get? "capabilities").getD (.object [])⟩

namespace Server

/-! ## The seven changes -/

/-- The server knows its client, and has an engine for it. -/
def meet (s : Server) (client : ClientCapabilities) : Server :=
  { s with
    client? := some client
    engine? := some (s.engine?.getD (.ofAssistant (assistantFor s.settings client))) }

/-- The server serves, and greets the client if the settings say so. -/
def serve (s : Server) : Server :=
  if s.settings.showWelcome then
    { s with phase := .initialized }.notify showMessageMethod welcomeParams
  else { s with phase := .initialized }

/-- What a message can do to a server. -/
inductive Step (s : Server) : Message → Server → Prop
  /-- The message is refused, or asks for nothing that changes the server. -/
  | keep {m : Message} (hexit : m.isExit = false) : Step s m s
  | meet {r : Request} (hmethod : r.method = RequestMethod.start.name)
      (hphase : s.phase = .initializing) (hclient : s.client? = none) :
      Step s (.request r) (s.meet r.client)
  | serve {n : Notification} (hexit : (Message.notification n).isExit = false)
      (hphase : s.phase = .initializing) (hclient : s.client?.isSome) :
      Step s (.notification n) s.serve
  | edit {n : Notification} (hexit : (Message.notification n).isExit = false)
      (hphase : s.phase = .initialized) (documents : Documents) :
      Step s (.notification n) { s with documents }
  | ask {r : Request} (hphase : s.phase = .initialized) (action : ClientAction) :
      Step s (.request r) (s.ask action)
  | close {r : Request} (hphase : s.phase = .initialized) :
      Step s (.request r) { s with phase := .shuttingDown }
  | exit {n : Notification} (hexit : (Message.notification n).isExit = true) :
      Step s (.notification n) s.exit.1

/-! ## What each operation does -/

theorem requireInitialized_eq_ok_iff {s : Server} {u : Unit} :
    s.requireInitialized = .ok u ↔ s.phase = .initialized := by
  unfold requireInitialized
  split
  · next h => exact ⟨fun _ => h, fun _ => rfl⟩
  · next h => exact ⟨fun hok => (nomatch hok), fun hphase => absurd hphase h⟩

theorem start_eq_ok_iff {s s' : Server} {params result : Value} :
    s.start params = .ok (s', result) ↔
      s.phase = .initializing ∧ s.client? = none ∧
        s' = s.meet ⟨(params.get? "capabilities").getD (.object [])⟩ ∧ result = introduction := by
  unfold start
  split
  · next h =>
    have hclient : s.client? = none := Option.isNone_iff_eq_none.1 h.2
    constructor
    · intro heq
      cases heq
      exact ⟨h.1, hclient, rfl, rfl⟩
    · rintro ⟨-, -, rfl, rfl⟩
      rfl
  · next h =>
    refine ⟨fun hok => (nomatch hok), ?_⟩
    rintro ⟨hphase, hclient, -, -⟩
    exact absurd ⟨hphase, Option.isNone_iff_eq_none.2 hclient⟩ h

theorem shutdown_eq_ok_iff {s s' : Server} {result : Value} :
    s.shutdown = .ok (s', result) ↔
      s.phase = .initialized ∧ s' = { s with phase := .shuttingDown } ∧ result = .null := by
  constructor
  · intro h
    obtain ⟨_, hready, h⟩ := bind_eq_ok_iff.1 h
    cases h
    exact ⟨requireInitialized_eq_ok_iff.1 hready, rfl, rfl⟩
  · rintro ⟨hphase, rfl, rfl⟩
    exact bind_eq_ok_iff.2 ⟨(), requireInitialized_eq_ok_iff.2 hphase, rfl⟩

theorem executeCommand_eq_ok {s s' : Server} {params result : Value}
    (h : s.executeCommand params = .ok (s', result)) :
    s.phase = .initialized ∧ s' = s.ask (.showDocument s.settings.documentationUrl) ∧
      result = .null := by
  obtain ⟨_, hready, h⟩ := bind_eq_ok_iff.1 h
  obtain ⟨command, -, h⟩ := bind_eq_ok_iff.1 h
  obtain ⟨action, haction, h⟩ := bind_eq_ok_iff.1 h
  cases h
  refine ⟨requireInitialized_eq_ok_iff.1 hready, ?_, rfl⟩
  unfold ClientAction.ofCommand at haction
  split at haction
  · cases haction
    rfl
  · cases haction

theorem initialized_eq_ok_iff {s s' : Server} :
    s.initialized = .ok s' ↔ s.phase = .initializing ∧ s.client?.isSome ∧ s' = s.serve := by
  unfold initialized
  split
  · next hphase =>
    refine ⟨fun h => (nomatch h), fun h => ?_⟩
    exact absurd h.1 hphase
  · next hphase =>
    split
    · next hclient =>
      refine ⟨fun h => (nomatch h), fun h => ?_⟩
      rw [Option.isNone_iff_eq_none] at hclient
      simp [hclient] at h
    · next hclient =>
      have hsome : s.client?.isSome := by
        rw [Option.isNone_iff_eq_none] at hclient
        exact Option.isSome_iff_ne_none.2 hclient
      constructor
      · intro h
        exact ⟨Decidable.not_not.1 hphase, hsome, (Except.ok.inj h).symm⟩
      · rintro ⟨-, -, rfl⟩
        rfl

theorem didOpen_eq_ok {s s' : Server} {params : Value} (h : s.didOpen params = .ok s') :
    s.phase = .initialized ∧ ∃ documents, s' = { s with documents } := by
  obtain ⟨_, hready, h⟩ := bind_eq_ok_iff.1 h
  obtain ⟨uri, -, h⟩ := bind_eq_ok_iff.1 h
  obtain ⟨text, -, h⟩ := bind_eq_ok_iff.1 h
  cases h
  exact ⟨requireInitialized_eq_ok_iff.1 hready, _, rfl⟩

theorem didChange_eq_ok {s s' : Server} {params : Value} (h : s.didChange params = .ok s') :
    s.phase = .initialized ∧ ∃ documents, s' = { s with documents } := by
  obtain ⟨_, hready, h⟩ := bind_eq_ok_iff.1 h
  obtain ⟨uri, -, h⟩ := bind_eq_ok_iff.1 h
  obtain ⟨text?, -, h⟩ := bind_eq_ok_iff.1 h
  have hphase := requireInitialized_eq_ok_iff.1 hready
  cases text? with
  | none =>
    cases h
    exact ⟨hphase, s.documents, rfl⟩
  | some text =>
    cases h
    exact ⟨hphase, _, rfl⟩

theorem didClose_eq_ok {s s' : Server} {params : Value} (h : s.didClose params = .ok s') :
    s.phase = .initialized ∧ ∃ documents, s' = { s with documents } := by
  obtain ⟨_, hready, h⟩ := bind_eq_ok_iff.1 h
  obtain ⟨uri, -, h⟩ := bind_eq_ok_iff.1 h
  cases h
  exact ⟨requireInitialized_eq_ok_iff.1 hready, _, rfl⟩

/-! ## What each message does -/

theorem isExit_iff_ofName? {n : Notification} :
    (Message.notification n).isExit = true ↔ NotificationMethod.ofName? n.method = some .exit := by
  constructor
  · intro h
    have hname : n.method = NotificationMethod.exit.name := of_decide_eq_true h
    rw [hname, NotificationMethod.ofName?_name]
  · intro h
    exact decide_eq_true (eq_name_of_find? h)

/-- A request that is refused changes nothing, and any other changes what its method is for. -/
theorem step_answer {s s' : Server} {r : Request} {result : Value}
    (h : s.answer r = .ok (s', result)) : Step s (.request r) s' := by
  unfold answer at h
  dsimp only at h
  split at h
  · next hmethod =>
    obtain ⟨hphase, hclient, rfl, -⟩ := start_eq_ok_iff.1 h
    exact .meet (eq_name_of_find? hmethod) hphase hclient
  · obtain ⟨hphase, rfl, -⟩ := shutdown_eq_ok_iff.1 h
    exact .close hphase
  · cases hanswer : s.completion (r.params?.getD (.object [])) with
    | error refusal =>
      rw [hanswer] at h
      cases h
    | ok items =>
      rw [hanswer] at h
      cases h
      exact .keep rfl
  · obtain ⟨hphase, rfl, -⟩ := executeCommand_eq_ok h
    exact .ask hphase _
  · cases h

/-- A notification that is refused changes nothing. -/
theorem step_settle {s : Server} {n : Notification} {outcome : Except Refusal Server}
    (hexit : (Message.notification n).isExit = false)
    (hok : ∀ s', outcome = .ok s' → Step s (.notification n) s') :
    Step s (.notification n) (s.settle outcome).1 := by
  cases outcome with
  | error refusal => exact .keep hexit
  | ok s' => exact hok s' rfl

theorem step_edit {s s' : Server} {n : Notification}
    (hexit : (Message.notification n).isExit = false)
    (h : s.phase = .initialized ∧ ∃ documents, s' = { s with documents }) :
    Step s (.notification n) s' := by
  obtain ⟨hphase, documents, rfl⟩ := h
  exact .edit hexit hphase documents

theorem step_note (s : Server) (n : Notification) : Step s (.notification n) (s.note n).1 := by
  -- A method has one name, so a notification of any other method is no exit.
  have hexit : ∀ {m : NotificationMethod}, NotificationMethod.ofName? n.method = some m →
      m ≠ .exit → (Message.notification n).isExit = false := by
    intro m hm hne
    rw [Bool.eq_false_iff, ne_eq, isExit_iff_ofName?, hm]
    intro h
    exact hne (Option.some.inj h)
  unfold note
  dsimp only
  split
  · next hmethod =>
    have hno := hexit hmethod (by decide)
    refine step_settle hno fun s' h => ?_
    obtain ⟨hphase, hclient, rfl⟩ := initialized_eq_ok_iff.1 h
    exact .serve hno hphase hclient
  · next hmethod =>
    have hno := hexit hmethod (by decide)
    exact step_settle hno fun s' h => step_edit hno (didOpen_eq_ok h)
  · next hmethod =>
    have hno := hexit hmethod (by decide)
    exact step_settle hno fun s' h => step_edit hno (didChange_eq_ok h)
  · next hmethod =>
    have hno := hexit hmethod (by decide)
    exact step_settle hno fun s' h => step_edit hno (didClose_eq_ok h)
  · next hmethod => exact .exit (isExit_iff_ofName?.2 hmethod)
  · next hmethod =>
    refine .keep ?_
    rw [Bool.eq_false_iff, ne_eq, isExit_iff_ofName?, hmethod]
    exact fun h => (nomatch h)

theorem handle_of_answer {s s' : Server} {r : Request} {result : Value}
    (h : s.answer r = .ok (s', result)) :
    s.handle (.request r) = (s', some (.response (.success r.id result))) := by
  simp only [handle, h]

theorem handle_of_refusal {s : Server} {r : Request} {refusal : Refusal}
    (h : s.answer r = .error refusal) :
    s.handle (.request r) = (s, some (.response (.failure r.id refusal.fault))) := by
  simp only [handle, h]

/-- A new server accepts any request to initialize it. -/
theorem handle_start_of_new {s : Server} {r : Request}
    (hmethod : r.method = RequestMethod.start.name) (hphase : s.phase = .initializing)
    (hclient : s.client? = none) :
    s.handle (.request r) = (s.meet r.client, some (.response (.success r.id introduction))) := by
  apply handle_of_answer
  rw [answer, hmethod, RequestMethod.ofName?_name]
  exact start_eq_ok_iff.2 ⟨hphase, hclient, rfl, rfl⟩

/-- Every other server refuses it. -/
theorem handle_start_of_met {s : Server} {r : Request}
    (hmethod : r.method = RequestMethod.start.name)
    (h : ¬ (s.phase = .initializing ∧ s.client? = none)) :
    s.handle (.request r) =
      (s, some (.response (.failure r.id Refusal.notInitializing.fault))) := by
  apply handle_of_refusal
  rw [answer, hmethod, RequestMethod.ofName?_name]
  exact if_neg (by rwa [Option.isNone_iff_eq_none])

/-- There are no other changes. -/
theorem step_handle (s : Server) (m : Message) : Step s m (s.handle m).1 := by
  cases m with
  | request r =>
    cases h : s.answer r with
    | ok outcome =>
      rw [handle_of_answer h]
      exact step_answer h
    | error refusal =>
      rw [handle_of_refusal h]
      exact .keep rfl
  | response r => exact .keep rfl
  | notification n => exact step_note s n

/-- A request has one response, which carries its id; nothing else has any. -/
theorem handle_reply (s : Server) (m : Message) :
    (s.handle m).2.toList.flatMap Message.answers = m.awaited := by
  cases m with
  | request r =>
    cases h : s.answer r with
    | ok outcome =>
      rw [handle_of_answer h]
      rfl
    | error refusal =>
      rw [handle_of_refusal h]
      rfl
  | response r => rfl
  | notification n => rfl

namespace Step

variable {s s' : Server} {m : Message}

/-! ## What all changes have in common -/

theorem settings_eq (h : Step s m s') : s'.settings = s.settings := by
  cases h with
  | serve =>
    unfold Server.serve
    split <;> rfl
  | _ => rfl

theorem phase_serve (s : Server) : s.serve.phase = .initialized := by
  unfold Server.serve
  split <;> rfl

/-- A server ends with the message that says so, and not before. -/
theorem phase_eq_shutDown_iff (h : Step s m s') :
    s'.phase = .shutDown ↔ m.isExit = true ∨ s.phase = .shutDown := by
  cases h with
  | keep hexit => simp [hexit]
  | meet hmethod hphase => simp [Server.meet, hphase, Message.isExit]
  | serve hexit hphase => simp [phase_serve, hphase, hexit]
  | edit hexit hphase => simp [hphase, hexit]
  | ask hphase => simp [Server.ask, hphase, Message.isExit]
  | close hphase => simp [hphase, Message.isExit]
  | exit hexit => simp [hexit, Server.exit]

/-- No answer ever waits to be sent: answers are given at once. -/
theorem answers_outbox (h : Step s m s') :
    s'.outbox.flatMap Message.answers = s.outbox.flatMap Message.answers := by
  cases h with
  | serve =>
    unfold Server.serve
    split
    · simp [notify, Message.answers]
    · rfl
  | ask hphase action => simp [Server.ask, Message.answers]
  | _ => rfl

end Step

end Server

end ScriptAssist
